import PluginBuild.Shell.Arithmetic
import PluginBuild.Shell.State
/-!
# Conditions

The conditions on files, texts and numbers that a shell tests.
-/

namespace PluginBuild.Shell

open Files (Node Path Store)

/-- What an operator of conditions takes. -/
inductive ConditionOperator
  | unary
  | binary
  | negation
  | both
  | either
  | opening
  | closing
deriving DecidableEq

namespace ConditionOperator

/-- The operators with one operand. -/
def unaries : List String :=
  ["-b", "-c", "-d", "-e", "-f", "-g", "-h", "-k", "-L", "-n", "-O", "-G", "-p", "-r", "-s", "-S",
    "-t", "-u", "-w", "-x", "-z"]

/-- The operators with two operands. -/
def binaries : List String :=
  ["=", "!=", "<", ">", "-eq", "-ne", "-ge", "-gt", "-le", "-lt", "-nt", "-ot", "-ef"]

/-- The operator that a text is. -/
def ofText? (text : String) : Option ConditionOperator :=
  if text ∈ unaries then some unary
  else if text ∈ binaries then some binary
  else
    match text with
    | "!" => some negation
    | "-a" => some both
    | "-o" => some either
    | "(" => some opening
    | ")" => some closing
    | _ => none

/-- The operator at the start of arguments. An operator with one operand is a text of its own where
no operand follows, or where it is the operand of another one. -/
def atStart? (arguments : List String) : Option ConditionOperator :=
  match arguments with
  | [] => none
  | text :: rest =>
    match ofText? text, rest with
    | some unary, [] => none
    | some unary, next :: _ :: _ => if ofText? next = some binary then none else some unary
    | some opening, [] => none
    | operator, _ => operator

end ConditionOperator

namespace Condition

/-- What is wrong with an operand. -/
def fault (text message : String) : String :=
  if text.isEmpty then message else text ++ ": " ++ message

/-- The number that an operand is. -/
def number (operand : String) : Except String Int :=
  let text := operand.toList
  let trimmed := dropSpace text
  let (negative, digits) : Bool × List Char :=
    match trimmed with
    | '-' :: rest => (true, rest)
    | '+' :: rest => (false, rest)
    | rest => (false, rest)
  let rest := digits.dropWhile Char.isDigit
  match Text.digits? 10 (digits.takeWhile Char.isDigit) with
  | some n =>
    let value : Int := if negative then -n else n
    if (dropSpace rest).isEmpty ∧ clamped value = value then .ok value
    else .error ("Illegal number: " ++ operand)
  | none => .error ("Illegal number: " ++ operand)

/-- The value of a condition with one operand. -/
def unary (files : Store) (operator operand : String) : Except String Bool := do
  let node : Option Node :=
    if operand = "/dev/null" then none else (files.find (pathOf operand)).toOption
  let isDevice := operand ∈ ["/dev/null", "/dev/stdin", "/dev/stdout", "/dev/stderr"]
  match operator with
  | "-n" => return operand ≠ ""
  | "-z" => return operand = ""
  | "-e" | "-r" | "-w" | "-O" | "-G" => return node.isSome || isDevice
  | "-c" => return isDevice
  | "-d" => return node = some .directory
  | "-f" => return node.any fun
    | .file .. => true
    | .directory => false
  | "-s" => return node.any fun
    | .file content _ => !content.toBytes.isEmpty
    | .directory => true
  | "-x" => return node.any fun
    | .file _ executable => executable
    | .directory => true
  | "-t" =>
    let _ ← number operand
    return false
  | _ => return false

/-- The value of a condition with two operands. -/
def binary (files : Store) (operator a b : String) : Except String Bool := do
  match operator with
  | "=" => return a = b
  | "!=" => return a ≠ b
  | "<" => return a < b
  | ">" => return b < a
  | "-eq" => return (← number a) = (← number b)
  | "-ne" => return (← number a) ≠ (← number b)
  | "-lt" => return (← number a) < (← number b)
  | "-le" => return (← number a) ≤ (← number b)
  | "-gt" => return (← number a) > (← number b)
  | "-ge" => return (← number a) ≥ (← number b)
  | "-ef" =>
    match files.locate (pathOf a), files.locate (pathOf b) with
    | .ok first, .ok second => return first = second && files.contains (pathOf a)
    | _, _ => return false
  | "-nt" => return files.contains (pathOf a) && !files.contains (pathOf b)
  | _ => return files.contains (pathOf b) && !files.contains (pathOf a)

mutual

/-- The value of alternatives, and what follows the last operand. `operator` is the one that the
arguments start with. -/
def readAlternatives (files : Store) :
    Nat → Option ConditionOperator → List String → Except String (Bool × List String)
  | 0, _, _ => .error "too deep"
  | fuel + 1, operator, arguments => do
    let (first, rest) ← readAll files fuel operator arguments
    if ConditionOperator.atStart? rest = some .either then
      let rest := rest.tail
      let (others, rest) ←
        readAlternatives files fuel (ConditionOperator.atStart? rest) rest
      return (first || others, rest)
    else return (first, rest)

/-- The value of conditions that all have to hold, and what follows the last operand. -/
def readAll (files : Store) :
    Nat → Option ConditionOperator → List String → Except String (Bool × List String)
  | 0, _, _ => .error "too deep"
  | fuel + 1, operator, arguments => do
    let (first, rest) ← readSingle files fuel operator arguments
    if ConditionOperator.atStart? rest = some .both then
      let rest := rest.tail
      let (others, rest) ← readAll files fuel (ConditionOperator.atStart? rest) rest
      return (first && others, rest)
    else return (first, rest)

/-- The value of a condition, and what follows its last operand. -/
def readSingle (files : Store) :
    Nat → Option ConditionOperator → List String → Except String (Bool × List String)
  | 0, _, _ => .error "too deep"
  | fuel + 1, operator, arguments => do
    match operator, arguments with
    | _, [] => return (false, [])
    | some .negation, _ :: rest =>
      let (b, rest) ← readSingle files fuel (ConditionOperator.atStart? rest) rest
      return (!b, rest)
    | some .opening, _ :: rest =>
      if rest.head? = some ")" then return (false, rest.tail)
      else
        let (b, rest) ← readAlternatives files fuel (ConditionOperator.atStart? rest) rest
        if rest.head? = some ")" then return (b, rest.tail)
        else throw "closing paren expected"
    | some .unary, text :: rest =>
      match rest with
      | [] => throw (fault text "argument expected")
      | operand :: rest => return (← unary files text operand, rest)
    | _, a :: rest =>
      match rest with
      | text :: rest' =>
        if ConditionOperator.atStart? rest = some .binary then
          match rest' with
          | [] => throw (fault text "argument expected")
          | b :: rest => return (← binary files text a b, rest)
        else return (a ≠ "", rest)
      | [] => return (a ≠ "", [])

end

/-- The value of the condition that arguments are. -/
def value (files : Store) : Nat → List String → Except String Bool
  | 0, _ => .error "too deep"
  | _ + 1, [] => .ok false
  | fuel + 1, arguments => do
    let read (operator : Option ConditionOperator) (arguments : List String) :
        Except String Bool := do
      let (b, rest) ← readAlternatives files (4 * arguments.length + 4) operator arguments
      if rest.isEmpty then return b
      else
        let last := arguments[arguments.length - rest.length - 1]?
        throw (fault (last.getD "") "unexpected operator")
    let first := arguments.head?.getD ""
    if arguments.length = 3 ∧
        (arguments[1]?).bind ConditionOperator.ofText? = some .binary then read none arguments
    else if arguments.length = 3 ∨ arguments.length = 4 then
      if first = "(" ∧ arguments.getLast? = some ")" then
        read (ConditionOperator.atStart? arguments.tail.dropLast) arguments.tail.dropLast
      else if first = "!" then return !(← value files fuel arguments.tail)
      else read (ConditionOperator.atStart? arguments) arguments
    else read (ConditionOperator.atStart? arguments) arguments

end Condition

/-- Tests a condition. -/
def test (s : State) (arguments : List String) : State :=
  match Condition.value s.files (arguments.length + 1) arguments with
  | .ok b => s.finish (if b then 0 else 1)
  | .error message => s.raise message

/-- Tests a condition in brackets. -/
def testInBrackets (s : State) (arguments : List String) : State :=
  if arguments.getLast? = some "]" then test s arguments.dropLast else s.raise "missing ]"

end PluginBuild.Shell
