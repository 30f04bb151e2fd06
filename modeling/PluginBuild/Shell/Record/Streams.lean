import PluginBuild.Shell.Record.Machine
import PluginBuild.Shell.Streams
/-!
# Input and output of record scripts

The records that a script reads, and the files and commands that it prints to. What is printed is
held back until there is enough of it or somebody else may look at it.
-/

namespace PluginBuild.Shell.Record

open Files (Failure)

/-- How much is read at a time, and held back at most. -/
def blockSize : Nat := 4096

/-- What is written of characters that are held, the last one first, and what is still held. -/
def spill (held : List Char) : List Char × List Char :=
  let count := held.length
  if count ≤ blockSize then ([], held)
  else
    let kept := held.take (count % blockSize)
    ((held.drop kept.length).reverse, kept)

/-- Prints a text to the output. -/
def printHeld (text : List Char) : Running Unit :=
  modify fun m =>
    let (written, held) := spill (text.reverse ++ m.held)
    if written.isEmpty then { m with held }
    else { m with shell := m.shell.print written, held }

/-- Writes what is held for the output. -/
def flushOutput : Running Unit :=
  modify fun m => { m with shell := m.shell.print m.held.reverse, held := [] }

/-- Writes what is held for a file. -/
def flushWriter (writer : Writer) : Running Writer := do
  if writer.destination = .command ∨ writer.held.isEmpty then return writer
  else
    modify fun m => { m with shell := m.shell.write writer.stream (toBytes writer.held.reverse) }
    return { writer with held := [] }

/-- Writes what is held for the output and for files. -/
def flushAll : Running Unit := do
  flushOutput
  let writers ← (← get).writers.mapM flushWriter
  modify fun m => { m with writers }

/-- Why a file cannot be written. -/
def writingFailure? (s : State) (name : String) : Option Failure :=
  match s.files.locateFile (pathOf name) with
  | .error failure => some failure
  | .ok location =>
    match s.files.node? location with
    | some .directory => some .isADirectory
    | _ => none

/-- The number of the first stream to a file. -/
def firstStream : Nat := 100

/-- The file or command of a name that a script prints to. It comes to the front of all of them. -/
def writerFor (destination : Destination) (name : String) : Running Writer := do
  let m ← get
  let isOther (writer : Writer) : Bool :=
    writer.name ≠ name || (writer.destination = .command) ≠ (destination = .command)
  match m.writers.find? fun writer => !isOther writer with
  | some writer =>
    modify fun m => { m with writers := writer :: m.writers.filter isOther }
    return writer
  | none =>
    if destination = .command then
      flushAll
      let writer : Writer := ⟨name, destination, 0, []⟩
      modify fun m => { m with writers := writer :: m.writers }
      return writer
    else
      let cannot (failure : Failure) : Running Writer :=
        throw (.fault ("cannot open \"" ++ name ++ "\" for output (" ++ failure.reason ++ ")"))
      match if name = "/dev/null" then none else writingFailure? m.shell name with
      | some failure => cannot failure
      | none =>
        let stream := (m.writers.map (·.stream)).foldl (fun most n => max most (n + 1)) firstStream
        let redirection : Redirection := if destination = .append then .append else .write
        match m.shell.openTarget stream redirection name with
        | .error _ => cannot .notFound
        | .ok shell =>
          let writer : Writer := ⟨name, destination, stream, []⟩
          modify fun m => { m with shell, writers := writer :: m.writers }
          return writer

/-- Prints a text to a file or command. -/
def printTo (destination : Destination) (name : String) (text : List Char) : Running Unit := do
  if destination ≠ .command ∧ name = "/dev/stdout" then printHeld text
  else if destination ≠ .command ∧ name = "/dev/stderr" then
    modify fun m => { m with shell := m.shell.write 2 (toBytes text) }
  else
    let writer ← writerFor destination name
    let all := text.reverse ++ writer.held
    let (written, held) := if destination = .command then ([], all) else spill all
    modify fun m => { m with
      shell := if written.isEmpty then m.shell else m.shell.write writer.stream (toBytes written)
      writers := { writer with held } :: m.writers.tail }

/-- The name of the shell that runs the commands that a script prints to or reads from. -/
def pipeShell : String := "/bin/sh"

/-- Ends what is printed to a file or command, and gives how the command has ended. -/
def closeWriter (writer : Writer) : Running Nat := do
  if writer.destination = .command then
    let shell := (← get).shell
    let input : Stream := .source (toBytes writer.held.reverse) false
    let (status, after) := runScript (← readThe Surroundings).start pipeShell writer.name
      (shell.openAs 0 input)
    modify fun m => { m with shell := { after with table := shell.table } }
    return status
  else
    discard (flushWriter writer)
    modify fun m => { m with shell := m.shell.close writer.stream }
    return 0

/-- Ends what is read from or printed to under a name. -/
def closeAll (name : String) : Running Value := do
  let m ← get
  let readers := m.readers.filter (·.name = name)
  let writers := m.writers.filter (·.name = name)
  modify fun m => { m with
    readers := m.readers.filter (·.name ≠ name)
    writers := m.writers.filter (·.name ≠ name) }
  let statuses ← writers.mapM closeWriter
  match (readers.map (·.status) ++ statuses).getLast? with
  | some status => return .ofNat status
  | none => return .number (-1)

/-- Ends all that is printed to. -/
def finishOutput : Running Unit := do
  let writers := (← get).writers
  modify fun m => { m with writers := [] }
  discard (writers.mapM closeWriter)
  flushOutput

/-- Runs a script of a shell, and gives how it has ended. -/
def runSystem (script : String) : Running Nat := do
  flushAll
  let (status, shell) := runScript (← readThe Surroundings).start "sh" script (← get).shell
  modify fun m => { m with shell }
  return status

/-- The output of a command. -/
def readerOfCommand (command : String) : Running Reader := do
  flushAll
  let shell := (← get).shell
  let (status, after) :=
    runScript (← readThe Surroundings).start pipeShell command (shell.openAs 1 (.buffer []))
  let text := ofBytes (after.written shell.opened.size)
  modify fun m => { m with shell := { after with table := shell.table } }
  return ⟨command, true, text, false, status⟩

/-- What is to be read from a file, if there is one. -/
def readerOfFile (name : String) : Running (Except Failure Reader) := do
  if name = "-" ∨ name = "/dev/stdin" then return .ok ⟨name, false, [], true, 0⟩
  else
    match (← get).shell.files.find (pathOf name) with
    | .ok (.file content _) => return .ok ⟨name, false, ofBytes content.toBytes, false, 0⟩
    | .ok .directory => throw (.fault "read error (Is a directory)")
    | .error failure => return .error failure

/-- Reads on from the input until a record ends. -/
def fill (mark : RecordMark) : Nat → Reader → Running Reader
  | 0, reader => return reader
  | fuel + 1, reader => do
    if !reader.isInput || mark.endsIn reader.text then return reader
    else
      let left := (← get).shell.left 0
      if left.isEmpty then return reader
      else
        modify fun m => { m with shell := m.shell.leave 0 (left.drop blockSize) }
        fill mark fuel { reader with text := reader.text ++ ofBytes (left.take blockSize) }

/-- The next record of what is read, and what is left then. -/
def takeRecord? (reader : Reader) : Running (Option (String × Reader)) := do
  let mark ← markNow
  let reader ← fill mark stepLimit reader
  match mark.recordAt? reader.text with
  | none => return none
  | some (text, rest) => return some (String.ofList text, { reader with text := rest })

/-- The name and the value of an assignment. -/
def assignment? (text : String) : Option (String × String) :=
  let s := text.toList
  let name := s.takeWhile isNamePart
  match s.drop name.length with
  | '=' :: value =>
    if name.head?.any isNameStart then
      some (String.ofList name, String.ofList (unescaped (value.length + 1) value))
    else none
  | _ => none

/-- Opens what the records come from next: the file that an operand names, or the input if none
does. Tells whether there is something. -/
def openNext : Nat → Running Bool
  | 0 => return false
  | fuel + 1 => do
    let m ← get
    let openAs (name shown : String) : Running Bool := do
      match ← readerOfFile name with
      | .error failure =>
        throw (.fault ("cannot open \"" ++ name ++ "\" (" ++ failure.reason ++ ")"))
      | .ok reader =>
        modify fun m => { m with source := some reader, hasRead := true }
        modify fun m => (m.putShared "FILENAME" (.text shown)).putShared "FNR" (.number 0)
        return true
    let count := (wholePart? (m.sharedValue "ARGC").toNumber).getD 0
    if (m.operand : Int) < count then
      modify fun m => { m with operand := m.operand + 1 }
      let index : Index := .number m.operand
      let operand ← modifyGet (·.changeTable "ARGV" fun t => (t.get? index, t))
      let text := (operand.getD .unset).toText m.joinFormat
      match assignment? text with
      | some (name, value) =>
        modify (·.putShared name (.input value))
        openNext fuel
      | none => if text = "" then openNext fuel else openAs text text
    else if m.hasRead then return false
    else openAs "-" "-"

/-- The next record. -/
def nextRecord? : Nat → Running (Option String)
  | 0 => throw .outOfSteps
  | fuel + 1 => do
    match (← get).source with
    | none => if ← openNext stepLimit then nextRecord? fuel else return none
    | some reader =>
      match ← takeRecord? reader with
      | none =>
        modify fun m => { m with source := none }
        nextRecord? fuel
      | some (text, reader) =>
        modify fun m => { m with source := some reader }
        let counted (name : String) (m : Machine) : Machine :=
          m.putShared name (.number ((m.sharedValue name).toNumber + 1))
        modify fun m => counted "FNR" (counted "NR" m)
        return some text

/-- The next record of a file or of the output of a command. -/
def recordUnder? (isCommand : Bool) (name : String) : Running (Except Failure (Option String)) := do
  let isOther (reader : Reader) : Bool := reader.name ≠ name || reader.isCommand ≠ isCommand
  let found : Except Failure Reader ←
    match (← get).readers.find? fun reader => !isOther reader with
    | some reader => pure (.ok reader)
    | none => if isCommand then pure (.ok (← readerOfCommand name)) else readerOfFile name
  match found with
  | .error failure => return .error failure
  | .ok reader =>
    let result ← takeRecord? reader
    let reader := result.elim { reader with text := [] } (·.2)
    modify fun m => { m with readers := reader :: m.readers.filter isOther }
    return .ok (result.map (·.1))

end PluginBuild.Shell.Record
