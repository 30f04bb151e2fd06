import PluginBuild.Shell.Record.Run
import PluginBuild.Shell.Values
/-!
# The program for record scripts

The utility that runs record scripts, which it finds in its arguments or in files.
-/

namespace PluginBuild.Shell

open Files (Failure)

namespace Record

/-- What the program is told to do. -/
structure Invocation where
  /-- The files with the script, if it is in files. -/
  scripts : List String
  /-- The assignments to variables from before the script runs. -/
  assigned : List (String × String)
  /-- The options that mean nothing. -/
  vacuous : List String
  operands : List String

/-- What the program says of how it is used. -/
def usageText : String :=
  "Usage: mawk [Options] [Program] [file ...]

Program:
    The -f option value is the name of a file containing program text.
    If no -f option is given, a \"--\" ends option processing; the following
    parameters are the program text.

Options:
    -f program-file  Program  text is read from file instead of from the
                     command-line.  Multiple -f options are accepted.
    -F value         sets the field separator, FS, to value.
    -v var=value     assigns value to program variable var.
    --               unambiguous end of options.

    Implementation-specific options are prefixed with \"-W\".  They can be
    abbreviated:

    -W version       show version information and exit.
    -W compat        pre-POSIX 2001.
    -W dump          show assembler-like listing of program and exit.
    -W help          show this message and exit.
    -W interactive   set unbuffered output, line-buffered input.
    -W exec file     use file as program as well as last option.
    -W posix         stricter POSIX checking.
    -W random=number set initial random seed.
    -W sprintf=number adjust size of sprintf buffer.
    -W usage         show this message and exit.
"

/-- What the program says of itself. -/
def versionText : String := "mawk 1.3.4 20240123\n"

/-- What stops the program before it runs a script. -/
inductive Refusal
  | shown (text : String)
  | fault (message : String)

/-- The value of an option, which is attached to its letter or the next argument, and what follows
it. -/
def optionValue (letter : Char) (attached : List Char) (rest : List String) :
    Except Refusal (String × List String) :=
  match attached, rest with
  | [], value :: rest => .ok (value, rest)
  | [], [] => .error (.fault ("option -" ++ String.ofList [letter] ++ " lacks argument"))
  | attached, rest => .ok (String.ofList attached, rest)

/-- Reads the options of the program. -/
def readOptions : Nat → List String → Invocation → Except Refusal Invocation
  | 0, _, i | _ + 1, [], i => .ok i
  | fuel + 1, argument :: rest, i =>
    match argument.toList with
    | '-' :: c :: attached => do
      if argument = "--" then return { i with operands := rest }
      else if argument = "--help" ∨ argument = "--usage" then throw (.shown usageText)
      else if argument = "--version" then throw (.shown versionText)
      else if c ∈ ['F', 'f', 'v', 'W'] then
        let (value, rest) ← optionValue c attached rest
        if c = 'F' then
          let separator := String.ofList (unescaped (value.length + 1) value.toList)
          readOptions fuel rest { i with assigned := i.assigned ++ [("FS", separator)] }
        else if c = 'f' then readOptions fuel rest { i with scripts := i.scripts ++ [value] }
        else if c = 'v' then
          match assignment? value with
          | some entry => readOptions fuel rest { i with assigned := i.assigned ++ [entry] }
          | none => throw (.fault ("improper assignment: -v " ++ value))
        else if value.startsWith "v" then throw (.shown versionText)
        else if value.startsWith "h" ∨ value.startsWith "u" then throw (.shown usageText)
        else if value.toList.head?.any fun c => c ∈ ['c', 'd', 'i', 'e', 'p', 'r', 's'] then
          readOptions fuel rest i
        else readOptions fuel rest { i with vacuous := i.vacuous ++ [value] }
      else throw (.fault ("not an option: " ++ argument))
    | ['-'] => .ok i
    | _ => .ok { i with operands := argument :: rest }

/-- Looks whether the values from before the script that part records and fields do so. -/
def checkAssigned (assigned : List (String × String)) : Except String Unit :=
  (assigned.forM fun (name, text) => do
    if name = "FS" then discard (Separator.ofText text)
    else if name = "RS" then discard (RecordMark.ofText text)).mapError ("line 0: " ++ ·)

/-- The text of the files with a script. -/
def scriptOf (s : State) (names : List String) : Except String (List Char × State) :=
  names.foldlM (fun (text, s) name => do
    if name = "-" ∨ name = "/dev/stdin" then
      let (more, s) := s.takeInput
      return (text ++ more, s)
    else
      match s.files.read (pathOf name) with
      | .ok content => return (text ++ ofBytes content.toBytes, s)
      | .error failure => throw ("cannot open \"" ++ name ++ "\" (" ++ failure.reason ++ ")"))
    ([], s)

/-- The variables before a script runs. -/
def initialValues : List (String × Value) :=
  [("NR", .number 0), ("FNR", .number 0), ("FS", .text " "), ("OFS", .text " "),
    ("ORS", .text "\n"), ("RS", .text "\n"), ("SUBSEP", .text "\x1c"),
    ("CONVFMT", .text "%.6g"), ("OFMT", .text "%.6g")]

/-- A machine before its script runs. -/
def Machine.initial (s : State) (name : String) (invocation : Invocation)
    (operands : List String) : Machine :=
  let arguments := (name :: operands).zipIdx.foldl (fun (t : Table Value) (text, i) =>
    t.put (.number (Int.ofNat i)) (.input text)) .empty
  let environment := s.given.foldl (fun (t : Table Value) (name, text) =>
    t.put (.text name) (.input text)) .empty
  let values := initialValues ++ [("ARGC", Value.ofNat (operands.length + 1))] ++
    invocation.assigned.map fun (name, text) => (name, Value.input text)
  let tables := [("ARGV", Cell.table arguments), ("ENVIRON", Cell.table environment)]
  { shell := s
    shared := .ofList (tables ++ values.map fun (name, value) => (name, Cell.scalar value))
    own := #[]
    names := []
    record := some (.text "")
    fields := #[]
    held := []
    writers := []
    readers := []
    source := none
    operand := 1
    hasRead := false
    between := []
    patterns := ∅
    separator := (" ", .blanks)
    mark := ("\n", .single '\n')
    seed := .number 0
    status := 0 }

/-- The state after a script has run. -/
def runRecordScript (start : Start) (script : RecordScript) (name : String) (m : Machine) :
    State :=
  let surroundings : Surroundings := ⟨start, script.functions⟩
  let (result, m) := ((runScriptRules script.rules).run surroundings).run.run m
  let m :=
    match result with
    | .error (.fault message) =>
      { m with shell := m.shell.complain (name ++ ": " ++ message), status := 2 }
    | .error .outOfSteps =>
      { m with shell := m.shell.complain (name ++ ": too many steps"), status := 2 }
    | _ => m
  let m := (finishOutput.run surroundings).run.run m |>.2
  m.shell.finish m.status

end Record

open Record in
/-- Runs a record script. -/
def awk (start : Start) (s : State) (arguments : List String) : State :=
  let name := baseOf s.name
  let fault (message : String) : State := (s.complain (name ++ ": " ++ message)).finish 2
  if arguments.isEmpty then (s.write 2 (toBytes usageText.toList)).finish 0
  else
    match readOptions (arguments.length + 1) arguments ⟨[], [], [], []⟩ with
    | .error (.shown text) => (s.print text.toList).finish 0
    | .error (.fault message) => fault message
    | .ok invocation =>
      let s := invocation.vacuous.foldl (fun s text =>
        s.complain (name ++ ": vacuous option: -W \"" ++ text ++ "\"")) s
      let found : Except String (List Char × List String × State) := do
        checkAssigned invocation.assigned
        match invocation.scripts, invocation.operands with
        | [], [] => return ([], [], s)
        | [], text :: operands => return (text.toList, operands, s)
        | names, operands =>
          let (text, s) ← scriptOf s names
          return (text, operands, s)
      match found with
      | .error message => fault message
      | .ok (text, operands, s) =>
        match RecordScript.ofText text with
        | .error message => fault message
        | .ok script =>
          runRecordScript start script name (Machine.initial s name invocation operands)

end PluginBuild.Shell
