import PluginBuild.Shell.Condition
import PluginBuild.Shell.FileTools
import PluginBuild.Shell.Printing
import PluginBuild.Shell.Regex
/-!
# Values

The utilities that work out names, numbers and truth values.
-/

namespace PluginBuild.Shell

/-- The last name of a path; of a path of slashes, one of them. -/
def baseOf (path : String) : String :=
  let trimmed := (path.toList.reverse.dropWhile (· = '/'))
  if trimmed.isEmpty then if path.isEmpty then "" else "/"
  else String.ofList (trimmed.takeWhile (· ≠ '/')).reverse

/-- A name without an ending, which is not all of it. -/
def withoutEnding (name ending : String) : String :=
  if name ≠ ending && ending.toList.isSuffixOf name.toList then
    String.ofList (name.toList.take (name.length - ending.length))
  else name

/-- A path without its last name. -/
def directoryOfPath (path : String) : String :=
  let above := ((path.toList.reverse.dropWhile (· = '/')).dropWhile (· ≠ '/')).dropWhile (· = '/')
  if !above.isEmpty then String.ofList above.reverse
  else if path.startsWith "/" then "/"
  else "."

/-- Prints the last names of paths, without an ending. -/
def basename (s : State) (arguments : List String) : State :=
  State.withArguments ⟨['a', 'z'], ['s'], [("multiple", 'a'), ("suffix", 's')], false⟩ 1
    (fun options s =>
      let ending := (options.value? 's').getD ""
      let print (names : List String) : State :=
        (s.print (joinLines (names.map String.toList))).finish 0
      match options.operands with
      | [] => s.misused 1 "missing operand"
      | first :: rest =>
        if options.has 'a' ∨ options.has 's' then
          print ((first :: rest).map fun path => withoutEnding (baseOf path) ending)
        else
          match rest with
          | [] => print [baseOf first]
          | [ending] => print [withoutEnding (baseOf first) ending]
          | _ :: extra :: _ => s.misused 1 ("extra operand " ++ named extra))
    s arguments

/-- Prints paths without their last names. -/
def dirname : State → List String → State :=
  withOperands ⟨['z'], [], [], true⟩ "missing operand" fun options s =>
    (s.print (joinLines (options.operands.map fun path =>
      (directoryOfPath path).toList))).finish 0

/-- A number with decimals. -/
structure Decimal where
  /-- The number in units of its last decimal. -/
  units : Int
  places : Nat

namespace Decimal

/-- The number that a text is. -/
def ofText? (text : String) : Option Decimal :=
  let isNegative := text.startsWith "-"
  let body := if isNegative ∨ text.startsWith "+" then text.toList.tail else text.toList
  let whole := body.takeWhile Char.isDigit
  let rest := body.drop whole.length
  let places := if rest.head? = some '.' then rest.tail else []
  if rest.head?.any (· ≠ '.') then none
  else
    (Text.digits? 10 (whole ++ places)).map fun n => ⟨if isNegative then -n else n, places.length⟩

/-- The units of the number if it had more decimals. -/
def scaled (places : Nat) (d : Decimal) : Int := d.units * (Nat.pow 10 (places - d.places) : Nat)

/-- The text of units with a number of decimals. -/
def text (places : Nat) (units : Int) : List Char :=
  let digits := (toString units.natAbs).toList
  let digits := List.replicate (places + 1 - digits.length) '0' ++ digits
  (if units < 0 then ['-'] else []) ++ digits.take (digits.length - places) ++
    (if places = 0 then [] else '.' :: digits.drop (digits.length - places))

end Decimal

/-- The options before numbers, of which the first may be negative, and the numbers. -/
def cutNumbers : List String → List String × List String
  | [] => ([], [])
  | argument :: rest =>
    match rest with
    | value :: after =>
      if argument = "-s" ∨ argument = "-f" then
        let (options, numbers) := cutNumbers after
        (argument :: value :: options, numbers)
      else if (Decimal.ofText? argument).isSome then ([], argument :: rest)
      else
        let (options, numbers) := cutNumbers (value :: after)
        (argument :: options, numbers)
    | [] => if (Decimal.ofText? argument).isSome then ([], [argument]) else ([argument], [])

/-- Prints the numbers from one to another. -/
def seq (s : State) (arguments : List String) : State :=
  let (before, numbers) := cutNumbers arguments
  State.withArguments ⟨['w'], ['s', 'f'],
    [("equal-width", 'w'), ("separator", 's'), ("format", 'f')], false⟩ 1
    (fun options s =>
      let operands := options.operands ++ numbers
      match operands, operands.find? fun text => (Decimal.ofText? text).isNone with
      | [], _ => s.misused 1 "missing operand"
      | _, some text => s.misused 1 ("invalid floating point argument: " ++ named text)
      | _ :: _ :: _ :: extra :: _, _ => s.misused 1 ("extra operand " ++ named extra)
      | _, none =>
        let values := operands.filterMap Decimal.ofText?
        let one : Decimal := ⟨1, 0⟩
        let (first, step, last) :=
          match values with
          | [last] => (one, one, last)
          | [first, last] => (first, one, last)
          | first :: step :: last :: _ => (first, step, last)
          | [] => (one, one, ⟨0, 0⟩)
        if step.units = 0 then
          s.misused 1 ("invalid Zero increment value: " ++ named ((operands[1]?).getD ""))
        else
          let places := max first.places step.places
          let scale := max places last.places
          let start := first.scaled scale
          let pace := step.scaled scale
          let stop := last.scaled scale
          let count := ((stop - start).fdiv pace + 1).toNat
          let units := (List.range count).map fun (i : Nat) =>
            (start + pace * (i : Int)).tdiv (Nat.pow 10 (scale - places) : Nat)
          let shown := units.map (Decimal.text places)
          let width := ((shown.map List.length).max?).getD 0
          let padded (text : List Char) : List Char :=
            if options.has 'w' then
              let sign := text.takeWhile (· = '-')
              sign ++ List.replicate (width - text.length) '0' ++ text.drop sign.length
            else text
          let texts := match options.value? 'f' with
            | some format =>
              shown.map fun text => (printout format [String.ofList text]).text.reverse
            | none => shown.map padded
          let mark := ((options.value? 's').getD "\n").toList
          let mark := (escaped false (mark.length + 1) mark).1
          (s.print (if texts.isEmpty then [] else mark.intercalate texts ++ ['\n'])).finish 0)
    s before

namespace Formula

/-- What is wrong with a formula, and whether its form is wrong. -/
inductive Fault
  | missing (after : String)
  | unexpected (text : String)
  | noClosing (after : String)
  | notInteger
  | division
  | regex (message : String)

/-- How a fault is worded. -/
def Fault.message : Fault → String
  | missing after => "syntax error: missing argument after " ++ named after
  | unexpected text => "syntax error: unexpected argument " ++ named text
  | noClosing after => "syntax error: expecting ')' after " ++ named after
  | notInteger => "non-integer argument"
  | division => "division by zero"
  | regex message => message

/-- A value with the arguments that follow it. `last` is the argument before those. -/
structure Read where
  value : String
  rest : List String
  last : String

/-- A value that is neither empty nor zero. -/
def isTrue (value : String) : Bool :=
  !(value.isEmpty || (value ≠ "-" && (if value.startsWith "-" then value.toList.tail
    else value.toList).all (· = '0')))

/-- The integer that a value is. -/
def integer (value : String) : Except Fault Int :=
  let body := if value.startsWith "-" then value.toList.tail else value.toList
  match Text.digits? 10 body with
  | some n => .ok (if value.startsWith "-" then -n else n)
  | none => .error .notInteger

/-- What a pattern matches at the start of a text: its group, or else the number of characters. -/
def matching (text pattern : String) : Except Fault String :=
  match Regex.ofText? ⟨false, false, false, false⟩ pattern.toList with
  | .error message => .error (.regex message)
  | .ok regex =>
    let chars := text.toList.toArray
    match regex.matchFrom? chars 0 with
    | none => .ok (if regex.hasGroups then "" else "0")
    | some place =>
      if regex.hasGroups then
        let (first, last) := (place.groups.lookup 1).getD (0, 0)
        .ok (String.ofList (chars.extract first last).toList)
      else .ok (toString place.position)

/-- One for what holds and zero for what does not. -/
def truth (b : Bool) : String := if b then "1" else "0"

/-- The value of an operator on two values. -/
def apply (operator a b : String) : Except Fault String := do
  let compared : Ordering :=
    match integer a, integer b with
    | .ok m, .ok n => compare m n
    | _, _ => compare a b
  match operator with
  | "|" => return if isTrue a then a else if isTrue b then b else "0"
  | "&" => return if isTrue a && isTrue b then a else "0"
  | "<" => return truth (compared = .lt)
  | "<=" => return truth (compared ≠ .gt)
  | "=" | "==" => return truth (compared = .eq)
  | "!=" => return truth (compared ≠ .eq)
  | ">=" => return truth (compared ≠ .lt)
  | ">" => return truth (compared = .gt)
  | ":" => matching a b
  | _ =>
    let m ← integer a
    let n ← integer b
    match operator with
    | "+" => return toString (m + n)
    | "-" => return toString (m - n)
    | "*" => return toString (m * n)
    | _ =>
      if n = 0 then throw .division
      else return toString (if operator = "/" then m.tdiv n else m.tmod n)

/-- The operators by precedence, the weakest first. -/
def levels : List (List String) :=
  [["|"], ["&"], ["<", "<=", "=", "==", "!=", ">=", ">"], ["+", "-"], ["*", "/", "%"], [":"]]

mutual

/-- The value of a formula made with operators of some levels. -/
def readLevel : Nat → List (List String) → String → List String → Except Fault Read
  | 0, _, last, _ => .error (.missing last)
  | fuel + 1, [], last, arguments => do
    let one (rest : List String) (last : String) : Except Fault Read :=
      readLevel fuel [] last rest
    match arguments with
    | [] => throw (.missing last)
    | "(" :: rest =>
      let inner ← readLevel fuel levels "(" rest
      match inner.rest with
      | ")" :: rest => return ⟨inner.value, rest, ")"⟩
      | [] => throw (.noClosing inner.last)
      | text :: _ => throw (.unexpected text)
    | ")" :: _ => throw (.unexpected ")")
    | "length" :: rest =>
      let text ← one rest "length"
      return { text with value := toString text.value.length }
    | "index" :: rest =>
      let text ← one rest "index"
      let chars ← one text.rest text.last
      return { chars with value := toString (((text.value.toList.findIdx? fun c =>
        c ∈ chars.value.toList).map (· + 1)).getD 0) }
    | "substr" :: rest =>
      let text ← one rest "substr"
      let first ← one text.rest text.last
      let count ← one first.rest first.last
      let value :=
        match integer first.value, integer count.value with
        | .ok first, .ok count =>
          if first ≤ 0 ∨ count ≤ 0 then ""
          else String.ofList ((text.value.toList.drop (first.toNat - 1)).take count.toNat)
        | _, _ => ""
      return { count with value }
    | "match" :: rest =>
      let text ← one rest "match"
      let pattern ← one text.rest text.last
      return { pattern with value := (← matching text.value pattern.value) }
    | "+" :: text :: rest => return ⟨text, rest, text⟩
    | text :: rest => return ⟨text, rest, text⟩
  | fuel + 1, _ :: higher, last, arguments => do
    let operators := ((levels.drop (levels.length - higher.length - 1)).head?).getD []
    readMore fuel operators higher (← readLevel fuel higher last arguments)

/-- The value of a formula with the operators of a level after it. -/
def readMore : Nat → List String → List (List String) → Read → Except Fault Read
  | 0, _, _, left => .ok left
  | fuel + 1, operators, higher, left => do
    match left.rest with
    | operator :: rest =>
      if operator ∈ operators then
        let right ← readLevel fuel higher operator rest
        let value ← apply operator left.value right.value
        readMore fuel operators higher { right with value }
      else return left
    | [] => return left

end

/-- The value of the formula that arguments are. -/
def value (arguments : List String) : Except Fault String := do
  let result ← readLevel (20 * arguments.length + 20) levels "" arguments
  match result.rest with
  | [] => return result.value
  | text :: _ => throw (.unexpected text)

end Formula

/-- Prints the value of a formula. -/
def expr (s : State) (arguments : List String) : State :=
  let arguments := if arguments.head? = some "--" then arguments.tail else arguments
  if arguments.isEmpty then s.misused 2 "missing operand"
  else
    match Formula.value arguments with
    | .ok value =>
      (s.print (value.toList ++ ['\n'])).finish (if Formula.isTrue value then 0 else 1)
    | .error fault => s.fault 2 fault.message

/-- Tests a condition as the program does. -/
def testProgram (s : State) (arguments : List String) : State :=
  match Condition.value s.files (arguments.length + 1) arguments with
  | .ok b => s.finish (if b then 0 else 1)
  | .error message =>
    let number := (message.toList.drop 16)
    if message.startsWith "Illegal number: " then
      s.fault 2 ("invalid integer " ++ named (String.ofList number))
    else s.fault 2 message

/-- Tests a condition in brackets as the program does. -/
def testProgramInBrackets (s : State) (arguments : List String) : State :=
  if arguments.getLast? = some "]" then testProgram s arguments.dropLast
  else s.fault 2 "missing ']'"

/-- Prints a line again and again, much more often than anybody reads it. -/
def yes (s : State) (arguments : List String) : State :=
  let line := (if arguments.isEmpty then "y" else " ".intercalate arguments).toList ++ ['\n']
  (s.print (List.replicate (1048576 / line.length + 1) line).flatten).finish 0

/-- The lengths of time that an argument is made of, in thousandths of a second. -/
def duration? (text : String) : Option Nat :=
  let chars := text.toList
  let unit? (c : Char) : Option Nat := [('s', 1), ('m', 60), ('h', 3600), ('d', 86400)].lookup c
  let unit := (chars.getLast?.bind unit?).getD 1
  let number := if (chars.getLast?.bind unit?).isSome then chars.dropLast else chars
  match decimalAt? number with
  | some (q, []) => some (((q.scaled 10 3).numerator / (q.scaled 10 3).denominator) * unit)
  | _ => none

/-- Waits for a time. -/
def sleep (s : State) (arguments : List String) : State :=
  withOperands ⟨[], [], [], true⟩ "missing operand" (fun options s =>
    match options.operands.find? fun text => (duration? text).isNone with
    | some text => s.misused 1 ("invalid time interval " ++ named text)
    | none => s.finish 0) s arguments

/-- Prints the values of variables that the program is given. -/
def printenv (s : State) (arguments : List String) : State :=
  if arguments.isEmpty then
    (s.print (joinLines (s.given.map fun (name, value) => (name ++ "=" ++ value).toList))).finish 0
  else
    let values := arguments.map fun name => s.given.lookup name
    (s.print (joinLines ((values.filterMap id).map String.toList))).finish
      (if values.all Option.isSome then 0 else 1)

/-- Prints the working directory. -/
def printDirectory (s : State) : State :=
  (s.print ((pathText s.files.workingDirectory).toList ++ ['\n'])).finish 0

end PluginBuild.Shell
