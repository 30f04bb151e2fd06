import PluginBuild.Shell.Record.Streams
/-!
# Functions that all record scripts have

What the functions do with their arguments, where these are evaluated in some way.
-/

namespace PluginBuild.Shell.Record

/-- How expressions are evaluated, and how places for values are found. -/
structure Evaluation where
  value : Expression → Running Value
  place : Expression → Running Place

namespace Evaluation

/-- The number of an expression. -/
def number (eval : Evaluation) (e : Expression) : Running Float := return (← eval.value e).toNumber

/-- The text of an expression. -/
def text (eval : Evaluation) (e : Expression) : Running String := do textOf (← eval.value e)

/-- The regular expression that an expression stands for. -/
def regex (eval : Evaluation) : Expression → Running Regex
  | .regex r => return r
  | .grouped [.regex r] => return r
  | e => do regexOf (← eval.text e)

/-- The index of expressions. Several of them are joined. -/
def index (eval : Evaluation) : List Expression → Running Index
  | [e] => do return (← eval.value e).toIndex (← get).joinFormat
  | es => do
    let texts ← es.mapM eval.text
    return .text (((← get).sharedText "SUBSEP").intercalate texts)

/-- The text of the record, or of an expression if there is one. -/
def textOrRecord (eval : Evaluation) : Option Expression → Running String
  | some e => eval.text e
  | none => return (← get).recordText

/-- Replaces what matches in a place. -/
def replace (eval : Evaluation) (isAll : Bool) (pattern substitute : Expression)
    (target : Option Expression) : Running Value := do
  let regex ← eval.regex pattern
  let new := (← eval.text substitute).toList
  let isPlace : Expression → Bool
    | .variable _ | .element .. | .field _ => true
    | _ => false
  let place ←
    match target with
    | none => pure (some (Place.field 0))
    | some e => if isPlace e then pure (some (← eval.place e)) else pure none
  let text ←
    match place, target with
    | some place, _ => textOf (← place.read)
    | none, some e => eval.text e
    | none, none => pure ""
  let s := text.toList.toArray
  let (after, count) :=
    replaced regex s (fun matched => replacement matched (new.length + 1) new) isAll
      (2 * s.size + 2) 0 none
  match place with
  | some place => if 0 < count then place.put (.text (String.ofList after))
  | none => pure ()
  return .ofNat count

/-- Looks for a match, and keeps where it is. -/
def matchIn (eval : Evaluation) (text pattern : Expression) : Running Value := do
  let s := (← eval.text text).toList.toArray
  let regex ← eval.regex pattern
  let (start, length) : Float × Float :=
    match regex.find? s 0 with
    | some found => (Float.ofNat (found.first + 1), Float.ofNat (found.last - found.first))
    | none => (0, -1)
  modify fun m => (m.putShared "RSTART" (.number start)).putShared "RLENGTH" (.number length)
  return .number start

/-- Puts the parts of a text into a table. -/
def split (eval : Evaluation) (text : Expression) (table : String)
    (separator : Option Expression) : Running Value := do
  let s ← eval.text text
  let separator ←
    match separator with
    | none => separatorOf ((← get).sharedText "FS")
    | some (.regex r) => pure (.matching r)
    | some e => separatorOf (← eval.text e)
  let parts := (separator.fields s.toList).map fun part => Value.input (String.ofList part)
  modifyGet (·.changeTable table fun _ => ((), .ofList parts))
  return .ofNat parts.length

/-- The length of a text or table. -/
def length (eval : Evaluation) (argument : Option Expression) : Running Value := do
  let m ← get
  let found : Option Nat :=
    match argument with
    | some (.variable name) =>
      match m.cell (m.found name) with
      | .table t => some t.values.size
      | _ => none
    | _ => none
  match found with
  | some count => return .ofNat count
  | none => return .ofNat (← eval.textOrRecord argument).length

/-- The place of a text in another one, counted from one on. -/
def placeOf (part : List Char) : Nat → List Char → Nat
  | n, s =>
    if part.isPrefixOf s then if s.isEmpty then 0 else n
    else
      match s with
      | [] => 0
      | _ :: rest => placeOf part (n + 1) rest

/-- The text of values by the format that is the first of them, and what is wrong with them. -/
def format (eval : Evaluation) (function : String) (es : List Expression) :
    Running (List Char × Option String) := do
  match ← es.mapM eval.value with
  | [] => return ([], none)
  | format :: values =>
    let format ← textOf format
    let ofNumber := numberText (← get).joinFormat
    let (text, error) := formatted ofNumber (format.length + 1) 0 format.toList values
    let place := function ++ "(\"" ++ format ++ "\")"
    return (text, error.map fun
      | .tooFew => "not enough arguments passed to " ++ place
      | .improper n => "improper conversion(number " ++ toString n ++ ") in " ++ place)

/-- The whole number next to a number towards zero. -/
def wholeOf (x : Float) : Float := if x < 0 then x.ceil else x.floor

/-- Calls a function of numbers. -/
def onNumber (eval : Evaluation) (f : Float → Float) (e : Expression) : Running Value :=
  return .number (f (← eval.number e))

/-- Calls a function of texts. -/
def onText (eval : Evaluation) (f : String → String) (e : Expression) : Running Value :=
  return .text (f (← eval.text e))

/-- Calls a function. -/
def call (eval : Evaluation) (function : BuiltIn) (es : List Expression) : Running Value := do
  match function, es with
  | .index, [s, part] =>
    let s ← eval.text s
    let part ← eval.text part
    return .ofNat (placeOf part.toList 1 s.toList)
  | .substring, s :: start :: rest =>
    let s ← eval.text s
    let start ← eval.number start
    let length ← rest.head?.mapM eval.number
    return .text (partOf s start length)
  | .format, es =>
    match ← eval.format "sprintf" es with
    | (text, none) => return .text (String.ofList text)
    | (_, some message) => fail message
  | .sine, [e] => eval.onNumber Float.sin e
  | .cosine, [e] => eval.onNumber Float.cos e
  | .arctangent, [y, x] =>
    let y ← eval.number y
    return .number (Float.atan2 y (← eval.number x))
  | .logarithm, [e] => eval.onNumber Float.log e
  | .exponential, [e] => eval.onNumber Float.exp e
  | .whole, [e] => eval.onNumber wholeOf e
  | .root, [e] => eval.onNumber Float.sqrt e
  | .seed, es =>
    let seed ← es.head?.mapM eval.value
    let before := (← get).seed
    modify fun m => { m with seed := seed.getD (.number 0) }
    return before
  | .close, [e] => do closeAll (← eval.text e)
  | .system, [e] => do return .ofNat (← runSystem (← eval.text e))
  | .upper, [e] => eval.onText (String.map Char.toUpper) e
  | .lower, [e] => eval.onText (String.map Char.toLower) e
  | .flush, es =>
    let name ← es.head?.mapM eval.text
    flushAll
    let isKnown (name : String) : Running Bool :=
      return name = "/dev/stdout" || (← get).writers.any (·.name = name)
    match name with
    | none => return .number 0
    | some name => return .number (if ← isKnown name then 0 else -1)
  | .length, es => eval.length es.head?
  | .matchAt, [s, pattern] => eval.matchIn s pattern
  | .split, s :: .variable table :: rest => eval.split s table rest.head?
  | .replaceFirst, pattern :: new :: rest => eval.replace false pattern new rest.head?
  | .replaceAll, pattern :: new :: rest => eval.replace true pattern new rest.head?
  | _, _ => return .number 0

end Evaluation

end PluginBuild.Shell.Record
