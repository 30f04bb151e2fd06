import PluginBuild.Shell.Bytes
import PluginBuild.Shell.Token
import PluginBuild.Text.Numeral
/-!
# Arithmetic of shells

Expressions over integers of 64 bits and their values. Comparisons give one or zero.
-/

namespace PluginBuild.Shell

/-- An integer brought into the range of 64 bits. -/
def wrapped (n : Int) : Int := Int.bmod n (1 <<< 64)

/-- A number at most as far from zero as one of 64 bits can be. -/
def clamped (n : Int) : Int := max (min n Text.maxInt64) Text.minInt64

/-- The number at the start of a text, in decimal, or in octal or hexadecimal as its first digits
say, and what follows it. -/
def numberAt? (s : List Char) : Option (Nat × List Char) :=
  let isOctal (c : Char) : Bool := '0' ≤ c && c ≤ '7'
  let isHexadecimal (c : Char) : Bool := (Text.digits? 16 [c]).isSome
  let take (radix : Nat) (isDigit : Char → Bool) (s : List Char) : Option (Nat × List Char) :=
    (Text.digits? radix (s.takeWhile isDigit)).map (·, s.dropWhile isDigit)
  match s with
  | '0' :: x :: rest =>
    if (x = 'x' ∨ x = 'X') ∧ rest.head?.any isHexadecimal then take 16 isHexadecimal rest
    else take 8 isOctal s
  | _ => take 10 Char.isDigit s

/-- The number that a text starts with, after blanks and a sign, and what follows it. -/
def integerAt? (s : List Char) : Option (Int × List Char) :=
  let s := dropSpace s
  match s with
  | '-' :: rest => (numberAt? rest).map fun (n, after) => (-(n : Int), after)
  | '+' :: rest => (numberAt? rest).map fun (n, after) => ((n : Int), after)
  | _ => (numberAt? s).map fun (n, after) => ((n : Int), after)

/-- An expression. -/
inductive Expression
  | number (value : Int)
  | parameter (name : String)
  | unary (operator : Char) (operand : Expression)
  | binary (operator : String) (left right : Expression)
  /-- The value of one of two expressions. -/
  | choose (condition yes no : Expression)
  /-- Gives a variable the value of an operator on its own value, or just a value. -/
  | assign (name : String) (operator : Option String) (value : Expression)

namespace Expression

/-- The operators with two operands by precedence, the weakest first. -/
def levels : List (List String) :=
  [["||"], ["&&"], ["|"], ["^"], ["&"], ["==", "!="], ["<=", ">=", "<", ">"], ["<<", ">>"],
    ["+", "-"], ["*", "/", "%"]]

/-- The operators that can stand before the sign of an assignment. -/
def assignable : List String := ["<<", ">>", "+", "-", "*", "/", "%", "&", "|", "^"]

/-- All operators with two operands that are longer than one of them which they start with. -/
def longer : List String := ["||", "&&", "==", "!=", "<=", ">=", "<<", ">>"]

/-- The operator of a level at the start of a text, and what follows it. -/
def operatorAt? (operators : List String) (s : List Char) : Option (String × List Char) :=
  match startingWith? longer s with
  | some (operator, rest) => if operator ∈ operators then some (operator, rest) else none
  | none =>
    (startingWith? operators s).bind fun (operator, rest) =>
      if operator ∈ assignable ∧ rest.head? = some '=' then none else some (operator, rest)

/-- The assignment whose sign is at the start of a text, and what follows it. -/
def assignmentAt? (s : List Char) : Option (Option String × List Char) :=
  match startingWith? assignable s with
  | some (operator, '=' :: rest) => some (some operator, rest)
  | _ =>
    match s with
    | '=' :: rest => if rest.head? = some '=' then none else some (none, rest)
    | _ => none

/-- A text without its leading blanks. -/
def skip (s : List Char) : List Char := dropSpace s

mutual

/-- An expression that may be an assignment or a choice, and what follows it. -/
def readWhole : Nat → List Char → Except String (Expression × List Char)
  | 0, _ => .error "expecting primary"
  | fuel + 1, s => do
    let s := skip s
    let name := if s.head?.any isNameStart then s.takeWhile isNamePart else []
    match if name.isEmpty then none else assignmentAt? (skip (s.drop name.length)) with
    | some (operator, rest) =>
      let (value, rest) ← readWhole fuel rest
      return (.assign (String.ofList name) operator value, rest)
    | none =>
      let (condition, rest) ← readLevel fuel levels s
      match skip rest with
      | '?' :: rest =>
        let (yes, rest) ← readWhole fuel rest
        match skip rest with
        | ':' :: rest =>
          let (no, rest) ← readWhole fuel rest
          return (.choose condition yes no, rest)
        | _ => throw "expecting ':'"
      | _ => return (condition, rest)

/-- An expression made with operators of some levels, and what follows it. -/
def readLevel : Nat → List (List String) → List Char → Except String (Expression × List Char)
  | 0, _, _ => .error "expecting primary"
  | fuel + 1, [], s => do
    match skip s with
    | [] => throw "expecting primary"
    | c :: rest =>
      if c ∈ ['-', '+', '!', '~'] then
        let (operand, rest) ← readLevel fuel [] rest
        return (.unary c operand, rest)
      else if c = '(' then
        let (inside, rest) ← readWhole fuel rest
        match skip rest with
        | ')' :: rest => return (inside, rest)
        | _ => throw "expecting ')'"
      else if isNameStart c then
        return (.parameter (String.ofList ((c :: rest).takeWhile isNamePart)),
          (c :: rest).dropWhile isNamePart)
      else
        match numberAt? (c :: rest) with
        | some (n, rest) => return (.number (clamped n), rest)
        | none => throw "expecting primary"
  | fuel + 1, operators :: higher, s => do
    let (left, rest) ← readLevel fuel higher s
    readMore fuel operators higher left rest

/-- What becomes of an expression with the operators of a level after it. -/
def readMore : Nat → List String → List (List String) → Expression → List Char →
    Except String (Expression × List Char)
  | 0, _, _, _, _ => .error "expecting primary"
  | fuel + 1, operators, higher, left, s => do
    match operatorAt? operators (skip s) with
    | none => return (left, s)
    | some (operator, rest) =>
      let (right, rest) ← readLevel fuel higher rest
      readMore fuel operators higher (.binary operator left right) rest

end

/-- The expression that a text is. -/
def ofText? (s : List Char) : Except String Expression := do
  let (expression, rest) ← readWhole (12 * s.length + 24) s
  if (skip rest).isEmpty then return expression else throw "expecting EOF"

/-- One for what holds and zero for what does not. -/
def truth (b : Bool) : Int := if b then 1 else 0

/-- An operation on the bits of numbers. -/
def onBits (f : UInt64 → UInt64 → UInt64) (a b : Int) : Int :=
  wrapped (f (UInt64.ofInt a) (UInt64.ofInt b)).toNat

/-- The value of an operator on two numbers. -/
def apply (operator : String) (a b : Int) : Except String Int :=
  match operator with
  | "|" => .ok (onBits (· ||| ·) a b)
  | "^" => .ok (onBits (· ^^^ ·) a b)
  | "&" => .ok (onBits (· &&& ·) a b)
  | "==" => .ok (truth (a = b))
  | "!=" => .ok (truth (a ≠ b))
  | "<=" => .ok (truth (a ≤ b))
  | ">=" => .ok (truth (a ≥ b))
  | "<" => .ok (truth (a < b))
  | ">" => .ok (truth (a > b))
  | "<<" => .ok (wrapped (a * (1 <<< (b % 64).toNat : Nat)))
  | ">>" => .ok (a.fdiv (1 <<< (b % 64).toNat : Nat))
  | "+" => .ok (wrapped (a + b))
  | "-" => .ok (wrapped (a - b))
  | "*" => .ok (wrapped (a * b))
  | "/" => if b = 0 then .error "division by zero" else .ok (wrapped (a.tdiv b))
  | _ => if b = 0 then .error "division by zero" else .ok (a.tmod b)

/-- The values of variables in an expression: those that it has assigned, last one first, and those
from before, which may be no numbers. -/
structure Scope where
  assigned : List (String × Int)
  before : String → Except String Int

/-- The value of an expression, and the variables after it. -/
def value (scope : Scope) : Expression → Except String (Int × Scope)
  | number n => .ok (n, scope)
  | parameter name => do
    match scope.assigned.lookup name with
    | some n => return (n, scope)
    | none => return (← scope.before name, scope)
  | unary operator operand => do
    let (n, scope) ← operand.value scope
    return (if operator = '-' then wrapped (-n) else if operator = '!' then truth (n = 0)
      else if operator = '~' then -n - 1 else n, scope)
  | binary operator left right => do
    let (a, scope) ← left.value scope
    if operator = "||" ∧ a ≠ 0 then return (1, scope)
    else if operator = "&&" ∧ a = 0 then return (0, scope)
    else
      let (b, scope) ← right.value scope
      if operator = "||" ∨ operator = "&&" then return (truth (b ≠ 0), scope)
      else return (← apply operator a b, scope)
  | choose condition yes no => do
    let (n, scope) ← condition.value scope
    if n ≠ 0 then yes.value scope else no.value scope
  | assign name operator expression => do
    let (n, scope) ← expression.value scope
    let n ← match operator with
      | none => pure n
      | some operator => do
        let before ← match scope.assigned.lookup name with
          | some before => pure before
          | none => scope.before name
        apply operator before n
    return (n, { scope with assigned := (name, n) :: scope.assigned })

end Expression

end PluginBuild.Shell
