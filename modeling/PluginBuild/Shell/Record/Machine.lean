import PluginBuild.Shell.Record.Pattern
import PluginBuild.Shell.Record.Value
import PluginBuild.Shell.State
/-!
# Machines for record scripts

What a script works on while it runs: its variables and tables, and the record with its fields.
-/

namespace PluginBuild.Shell.Record

/-- Where a variable or table is kept. -/
inductive Slot
  /-- One of the whole script. -/
  | shared (name : String)
  /-- One of a function that runs. -/
  | own (number : Nat)

/-- What is kept in a slot. -/
inductive Cell
  | unset
  | scalar (value : Value)
  | table (table : Table Value)
  /-- What is kept in another slot, unless a value is put here. -/
  | link (slot : Slot)

/-- What is left to read of a file or of the output of a command. -/
structure Reader where
  name : String
  isCommand : Bool
  text : List Char
  /-- Whether more follows from the input. -/
  isInput : Bool
  /-- The exit code of the command. -/
  status : Nat

/-- A file or command to which a script prints. -/
structure Writer where
  name : String
  destination : Destination
  /-- The number of the stream to the file. -/
  stream : Nat
  /-- What has not been written yet, the last character first. -/
  held : List Char

/-- Why the course of a script is left. -/
inductive Interruption
  | next
  | nextFile
  | endLoop
  | nextRound
  | leave (value : Value)
  | exit
  | fault (message : String)
  | outOfSteps

/-- A script that runs. -/
structure Machine where
  shell : State
  shared : Std.HashMap String Cell
  own : Array Cell
  /-- The slots of the names of the function that runs. -/
  names : List (String × Nat)
  /-- The record, unless fields of it have been changed since. -/
  record : Option Value
  fields : Array Value
  /-- What has not been printed yet, the last character first. -/
  held : List Char
  writers : List Writer
  readers : List Reader
  /-- What the records come from. -/
  source : Option Reader
  /-- The number of the operand from which records come next. -/
  operand : Nat
  /-- Whether there has been an operand from which records come. -/
  hasRead : Bool
  /-- The rules that have found their first record and not their last one. -/
  between : List Nat
  patterns : Std.HashMap String Regex
  separator : String × Separator
  mark : String × RecordMark
  seed : Value
  status : Nat

/-- What stays the same while a script runs. -/
structure Surroundings where
  start : Start
  functions : List (String × Function)

/-- A step of a script. -/
abbrev Running (α : Type) := ReaderT Surroundings (ExceptT Interruption (StateM Machine)) α

/-- How many steps a loop or what is nested may take. -/
def stepLimit : Nat := 10000000

/-- Repeats a step as long as it tells to go on. -/
def repeatWhile (step : Running Bool) : Nat → Running Unit
  | 0 => throw .outOfSteps
  | fuel + 1 => do
    if ← step then repeatWhile step fuel else return ()

/-- Runs a step, and gives what has interrupted it. -/
def attempt {α : Type} (step : Running α) : Running (Except Interruption α) :=
  tryCatch (return .ok (← step)) fun interruption => return .error interruption

namespace Machine

/-- The slot of a name. -/
def slot (m : Machine) (name : String) : Slot :=
  (m.names.lookup name).elim (.shared name) .own

/-- What is kept in a slot. -/
def cell (m : Machine) : Slot → Cell
  | .shared name => m.shared.getD name .unset
  | .own number => m.own.getD number .unset

/-- The machine with something in a slot. -/
def keep (slot : Slot) (cell : Cell) (m : Machine) : Machine :=
  match slot with
  | .shared name => { m with shared := m.shared.insert name cell }
  | .own number => { m with own := m.own.setIfInBounds number cell }

/-- The slot at the end of links. -/
def target (m : Machine) : Nat → Slot → Slot
  | 0, slot => slot
  | fuel + 1, slot =>
    match m.cell slot with
    | .link next => m.target fuel next
    | _ => slot

/-- The slot in which a name has its value or table. -/
def found (m : Machine) (name : String) : Slot := m.target (m.own.size + 1) (m.slot name)

/-- The value of a variable of the whole script. -/
def sharedValue (m : Machine) (name : String) : Value :=
  match m.shared.get? name with
  | some (.scalar value) => value
  | _ => .unset

/-- The machine with a value for a variable of the whole script. -/
def putShared (name : String) (value : Value) (m : Machine) : Machine :=
  m.keep (.shared name) (.scalar value)

/-- The format for numbers that are joined to texts. -/
def joinFormat (m : Machine) : String := (m.sharedValue "CONVFMT").toText "%.6g"

/-- The format for numbers that are printed. -/
def printFormat (m : Machine) : String := (m.sharedValue "OFMT").toText "%.6g"

/-- The text of a variable of the whole script. -/
def sharedText (m : Machine) (name : String) : String :=
  (m.sharedValue name).toText m.joinFormat

/-- The text of the record. -/
def recordText (m : Machine) : String :=
  match m.record with
  | some value => value.toText m.printFormat
  | none =>
    (m.sharedText "OFS").intercalate (m.fields.toList.map (·.toText m.printFormat))

/-- The machine in which the record has its text. -/
def withRecord (m : Machine) : Machine :=
  match m.record with
  | some _ => m
  | none => { m with record := some (.input m.recordText) }

/-- The table in a slot, and the machine without it. -/
@[noinline] def takeTable (slot : Slot) (m : Machine) : Table Value × Machine :=
  match m.cell slot with
  | .table t => (t, m.keep slot .unset)
  | _ => (.empty, m)

/-- The machine with a table for a name, with what comes of a change. -/
def changeTable {α : Type} (name : String) (change : Table Value → α × Table Value)
    (m : Machine) : α × Machine :=
  let slot := m.found name
  let (t, m) := m.takeTable slot
  let (result, t) := change t
  (result, m.keep slot (.table t))

end Machine

/-- Ends a script because of what it does, with a message. -/
def fail {α : Type} (message : String) : Running α := do
  let m ← get
  throw (.fault ("run time error: " ++ message ++ "\n\tFILENAME=\"" ++ m.sharedText "FILENAME" ++
    "\" FNR=" ++ m.sharedText "FNR" ++ " NR=" ++ m.sharedText "NR"))

/-- The text of a value. -/
def textOf (value : Value) : Running String := return value.toText (← get).joinFormat

/-- The expression of a pattern that is a text. -/
def regexOf (pattern : String) : Running Regex := do
  match (← get).patterns.get? pattern with
  | some regex => return regex
  | none =>
    match patternOf pattern.toList with
    | .ok regex =>
      modify fun m => { m with patterns := m.patterns.insert pattern regex }
      return regex
    | .error message => fail message

/-- What a text parts texts by. -/
def separatorOf (text : String) : Running Separator := do
  let (known, separator) := (← get).separator
  if known = text then return separator
  else
    match Separator.ofText text with
    | .ok separator =>
      modify fun m => { m with separator := (text, separator) }
      return separator
    | .error message => fail message

/-- What ends records. -/
def markNow : Running RecordMark := do
  let m ← get
  let text := m.sharedText "RS"
  if m.mark.1 = text then return m.mark.2
  else
    match RecordMark.ofText text with
    | .ok mark =>
      modify fun m => { m with mark := (text, mark) }
      return mark
    | .error message => fail message

/-- Puts a value in the place of the record. -/
def setRecord (value : Value) : Running Unit := do
  let m ← get
  let separator ← separatorOf (m.sharedText "FS")
  let fields := separator.fields (value.toText m.joinFormat).toList
  modify fun m => { m with
    record := some value
    fields := (fields.map fun field => Value.input (String.ofList field)).toArray }

/-- Changes the number of fields. -/
def setFieldCount (value : Value) : Running Unit := do
  let count := (wholePart? value.toNumber).getD 0
  if count < 0 then fail "negative value assigned to NF"
  modify fun m =>
    let count := count.toNat
    let more := Array.replicate (count - m.fields.size) (Value.text "")
    { m with fields := m.fields.take count ++ more, record := none }

/-- A place for a value. -/
inductive Place
  | variable (name : String)
  | field (number : Nat)
  | element (table : String) (index : Index)

namespace Place

/-- The place of the field of a number. -/
def ofField (value : Value) : Running Place := do
  let number := (wholePart? value.toNumber).getD 0
  if number < 0 then fail ("negative field index $" ++ toString number)
  return .field number.toNat

/-- The value at a place. -/
def read : Place → Running Value
  | .variable name => do
    let m ← get
    match m.slot name with
    | .shared "NF" => return .ofNat m.fields.size
    | slot =>
      match m.cell (m.target (m.own.size + 1) slot) with
      | .scalar value => return value
      | _ => return .unset
  | .field 0 => do
    modify Machine.withRecord
    return (← get).record.getD .unset
  | .field (n + 1) => return (← get).fields.getD n (.text "")
  | .element table index => do
    modifyGet (·.changeTable table fun t =>
      ((t.get? index).getD .unset, t.seek index (some .unset)))

/-- Puts a value at a place. -/
def put (value : Value) : Place → Running Unit
  | .variable name => do
    match (← get).slot name with
    | .shared "NF" => setFieldCount value
    | slot =>
      if name = "OFS" ∨ name = "OFMT" then modify Machine.withRecord
      modify (·.keep slot (.scalar value))
  | .field 0 => setRecord value
  | .field (n + 1) =>
    modify fun m =>
      let more := Array.replicate (n + 1 - m.fields.size) (Value.text "")
      { m with fields := (m.fields ++ more).setIfInBounds n value, record := none }
  | .element table index => modifyGet (·.changeTable table fun t => ((), t.put index value))

end Place

end PluginBuild.Shell.Record
