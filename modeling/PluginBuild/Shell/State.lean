import PluginBuild.Files.Store
import PluginBuild.Shell.Bytes
import PluginBuild.Shell.Script
import PluginBuild.Shell.Signal
/-!
# Running shells

The state of a shell that runs a script. Streams have numbers in each shell; what they lead to is
shared by the shells and programs that have it open.
-/

namespace PluginBuild.Shell

open Files (Failure Location Store)

/-- What streams lead to. -/
inductive Stream
  /-- Bytes that are left to read, of a file or of something else. -/
  | source (bytes : List UInt8) (isFile : Bool)
  /-- What has been written, the last byte first. -/
  | buffer (written : List UInt8)
  /-- A file that is written at a place, or else at its end. -/
  | file (location : Location) (place : Option Nat)
  /-- A directory, which cannot be read. -/
  | directory
  | nowhere

/-- How a script goes on. -/
inductive Flow
  | goOn
  /-- A number of loops ends. -/
  | leaveLoops (count : Nat)
  /-- All but the last of a number of loops end, and that one goes on with its next round. -/
  | nextRound (count : Nat)
  /-- A function ends. -/
  | leaveFunction
  /-- The command ends with an error. -/
  | failed
  /-- The shell ends. -/
  | ended
deriving DecidableEq

/-- The options of a shell. -/
structure Options where
  /-- A command that fails ends the shell. -/
  strict : Bool
  /-- Parameters that are used have to be set. -/
  needsValues : Bool
  /-- Commands are printed before they run. -/
  traces : Bool
  /-- Patterns stand for themselves. -/
  keepsPatterns : Bool
  /-- All variables are passed on to programs. -/
  exportsAll : Bool
  /-- Redirections do not write to files that are there. -/
  keepsFiles : Bool
  /-- Commands are read but do not run. -/
  onlyReads : Bool

namespace Options

/-- The options of a shell to which nothing is said. -/
def usual : Options := ⟨false, false, false, false, false, false, false⟩

/-- The options with the option of a letter on or off, if there is one. -/
def set? (on : Bool) (letter : Char) (o : Options) : Option Options :=
  if letter = 'e' then some { o with strict := on }
  else if letter = 'u' then some { o with needsValues := on }
  else if letter = 'x' then some { o with traces := on }
  else if letter = 'f' then some { o with keepsPatterns := on }
  else if letter = 'a' then some { o with exportsAll := on }
  else if letter = 'C' then some { o with keepsFiles := on }
  else if letter = 'n' then some { o with onlyReads := on }
  else if letter ∈ ['v', 'm', 'b', 'i', 's', 'I', 'V', 'E', 'p', 'l'] then some o
  else none

/-- The long names of options, with their letters. -/
def names : List (String × Char) :=
  [("errexit", 'e'), ("noglob", 'f'), ("ignoreeof", 'I'), ("interactive", 'i'), ("monitor", 'm'),
    ("noexec", 'n'), ("stdin", 's'), ("xtrace", 'x'), ("verbose", 'v'), ("vi", 'V'),
    ("emacs", 'E'), ("noclobber", 'C'), ("allexport", 'a'), ("notify", 'b'), ("nounset", 'u'),
    ("privileged", 'p'), ("nolog", 'l'), ("debug", 'd')]

/-- The letters of the options that are on. -/
def text (o : Options) : String :=
  String.ofList ((if o.needsValues then ['u'] else []) ++ (if o.exportsAll then ['a'] else []) ++
    (if o.keepsFiles then ['C'] else []) ++ (if o.traces then ['x'] else []) ++
    (if o.onlyReads then ['n'] else []) ++ (if o.keepsPatterns then ['f'] else []) ++
    (if o.strict then ['e'] else []))

/-- Whether the option of a letter is on. -/
def has (o : Options) (letter : Char) : Bool := letter ∈ o.text.toList

end Options

/-- What something was before a function or command got it for itself. -/
inductive Shadowed
  | ofName (name : String) (value : Option String) (exported fixed : Bool)
  | ofOptions (options : Options)

/-- What a shell or program has for itself. -/
structure Situation where
  /-- The number of the process. -/
  number : Nat
  /-- The name under which the shell, its script or the program was started. -/
  name : String
  arguments : List String
  /-- The variables with their values. -/
  values : List (String × String)
  /-- The variables that programs are given. -/
  exported : List String
  /-- The variables whose values stay. -/
  fixed : List String
  /-- What a function has for itself, in a function. -/
  locals : Option (List Shadowed)
  functions : List (String × Script)
  /-- The programs that have been searched for. -/
  tracked : List String
  aliases : List (String × String)
  options : Options
  /-- What the streams lead to, by their numbers. -/
  table : List (Nat × Nat)
  /-- The line of the current command. -/
  line : Nat
  /-- The utility of the shell that runs, before messages. -/
  running : Option String
  /-- The exit code of the last command. -/
  status : Nat
  /-- The exit code of the last script that has run for its output. -/
  captured : Nat
  /-- The exit code from before the trap that runs. -/
  kept : Option Nat
  flow : Flow
  /-- How many loops the shell is in. -/
  loops : Nat
  /-- Whether a failure is tested for, and so ends nothing. -/
  tested : Bool
  /-- What runs for signals, and when the shell ends. -/
  traps : List (String × String)
  /-- The signal that has ended the shell. -/
  killed : Option Signal
  /-- Whether the shell is a copy of another one. -/
  isCopy : Bool
  /-- The number of the argument from which options are read next, and how many letters of the one
  before have been read, unless that is done. -/
  place : Nat × Option Nat
  /-- The number of the last script that nobody waits for. -/
  lastJob : Option Nat
  /-- The permissions that new files do not get. -/
  mask : Nat

/-- A script that nobody waits for. -/
structure Job where
  number : Nat
  script : Script
  /-- The situation in which the script runs. -/
  situation : Situation
  directory : Location
  /-- The exit code of a script that has run or has been stopped. -/
  status : Option Nat
  /-- The signal that has ended the script and that has not been told of. -/
  killed : Option Signal
  /-- Whether the end of the script has been told of. -/
  isOver : Bool

/-- The state of a shell or program with all that it shares. -/
structure State extends Situation where
  files : Store
  /-- What is open in any shell or program. -/
  opened : Array Stream
  jobs : List Job
  /-- How many processes have been started. -/
  started : Nat
  /-- The signals that have been sent to processes. -/
  pending : List (Nat × Signal)
  /-- Whether something has been written to a stream that is not open. -/
  lost : Bool

/-- The path of a location. -/
def pathText (location : Location) : String := inBytes ("/" ++ "/".intercalate location)

/-- The directories that are searched for programs. -/
def searchPath : String := "/usr/local/sbin:/usr/local/bin:/usr/sbin:/usr/bin:/sbin:/bin"

/-- The variables that a program is given to which nothing else is said. -/
def usualValues (directory : Location) : List (String × String) :=
  [("PWD", pathText directory), ("HOME", "/root"), ("PATH", searchPath)]

/-- The situation in which a program starts, with the variables that it is given. -/
def Situation.initial (number : Nat) (name : String) (arguments : List String)
    (values : List (String × String)) (table : List (Nat × Nat)) : Situation :=
  { number, name, arguments, table
    values
    exported := values.map (·.1)
    fixed := []
    locals := none
    functions := []
    tracked := []
    aliases := []
    options := .usual
    line := 0
    running := none
    status := 0
    captured := 0
    kept := none
    flow := .goOn
    loops := 0
    tested := false
    traps := []
    killed := none
    isCopy := false
    place := (1, none)
    lastJob := none
    mask := 18 }

/-- The number of the first program that is started. -/
def firstNumber : Nat := 4000

/-- The number of the first script that nobody waits for. -/
def firstJob : Nat := 5000

namespace State

/-- The state in which the first program is started, with nothing to read. -/
def initial (files : Store) (name : String) (arguments : List String) : State :=
  { toSituation := .initial (firstNumber - 1) name arguments
      (usualValues files.workingDirectory) [(0, 0), (1, 1), (2, 2)]
    files
    opened := #[.nowhere, .buffer [], .buffer []]
    jobs := []
    started := 0
    pending := []
    lost := false }

/-- What a stream leads to, with its place. -/
def stream? (s : State) (number : Nat) : Option (Nat × Stream) := do
  let index ← s.table.lookup number
  return (index, ← s.opened[index]?)

/-- The state with something else open at a place. -/
def reopen (s : State) (index : Nat) (stream : Stream) : State :=
  { s with opened := s.opened.setIfInBounds index stream }

/-- The state with a stream that leads to something new. -/
def openAs (s : State) (number : Nat) (stream : Stream) : State :=
  { s with
    opened := s.opened.push stream
    table := (number, s.opened.size) :: s.table.filter (·.1 ≠ number) }

/-- The state without a stream. -/
def close (s : State) (number : Nat) : State :=
  { s with table := s.table.filter (·.1 ≠ number) }

/-- The bytes of the file at a location. -/
def bytesAt (s : State) (location : Location) : List UInt8 :=
  match s.files.node? location with
  | some (.file content _) => content.toBytes
  | _ => []

/-- Writes to a stream. -/
def write (number : Nat) (bytes : List UInt8) (s : State) : State :=
  match s.stream? number with
  | some (index, .buffer written) => s.reopen index (.buffer (bytes.reverse ++ written))
  | some (index, .file location place) =>
    match s.files.node? location with
    | some (.file content executable) =>
      let before := content.toBytes
      let start := place.getD before.length
      let gap := List.replicate (start - before.length) 0
      let after := before.take start ++ gap ++ bytes ++ before.drop (start + bytes.length)
      { s with files := s.files.put location (.file (.bytes after) executable) }.reopen index
        (.file location (place.map (· + bytes.length)))
    | _ => s
  | some _ => s
  | none => if bytes.isEmpty then s else { s with lost := true }

/-- Prints a text. -/
def print (text : List Char) (s : State) : State := s.write 1 (toBytes text)

/-- Prints a line of a message. -/
def complain (message : String) (s : State) : State :=
  s.write 2 (toBytes (message.toList ++ ['\n']))

/-- The bytes that are left to read from a stream. -/
def left (s : State) (number : Nat) : List UInt8 :=
  match s.stream? number with
  | some (_, .source bytes _) => bytes
  | some (_, .file location place) => (s.bytesAt location).drop (place.getD 0)
  | _ => []

/-- The state in which all but the last bytes have been read from a stream. -/
def leave (number : Nat) (last : List UInt8) (s : State) : State :=
  match s.stream? number with
  | some (index, .source _ isFile) => s.reopen index (.source last isFile)
  | some (index, .file location _) =>
    s.reopen index (.file location (some ((s.bytesAt location).length - last.length)))
  | _ => s

/-- The text that is left to read from the input, and the state after it has been read. -/
def takeInput (s : State) : List Char × State := (ofBytes (s.left 0), s.leave 0 [])

/-- The state after a command with an exit code. -/
def finish (status : Nat) (s : State) : State := { s with status }

/-- The state after a program that says something about itself. -/
def fault (status : Nat) (message : String) (s : State) : State :=
  (s.complain (s.name ++ ": " ++ message)).finish status

/-- The state after a program that is not used as it has to be. -/
def misused (status : Nat) (message : String) (s : State) : State :=
  (s.fault status message).complain ("Try '" ++ s.name ++ " --help' for more information.")

/-- A message of the shell with what tells where it comes from. -/
def located (s : State) (message : String) : String :=
  ": ".intercalate ([s.name, toString s.line] ++ s.running.toList ++ [message])

/-- The state after a failure that the shell says something about. -/
def report (status : Nat) (message : String) (s : State) : State :=
  (s.complain (s.located message)).finish status

/-- The state after an error, which ends the command. -/
def raise (message : String) (s : State) : State :=
  { s.report 2 message with flow := .failed }

/-- The state with a value for a variable, which may be one that stays as it is. -/
def put (name value : String) (s : State) : State :=
  { s with
    values := (name, value) :: s.values.filter (·.1 ≠ name)
    tracked := if name = "PATH" then [] else s.tracked
    place := if name = "OPTIND" then (max 1 ((wholeNumber? value).getD 1), none) else s.place }

/-- The state with a value for a variable. -/
def assign (name value : String) (s : State) : State :=
  if name ∈ s.fixed then s.raise (name ++ ": is read only")
  else
    let s := s.put name value
    if s.options.exportsAll ∧ name ∉ s.exported then { s with exported := name :: s.exported }
    else s

/-- The state without a variable. -/
def unassign (name : String) (s : State) : State :=
  if name ∈ s.fixed then s.raise (name ++ ": is read only")
  else
    { s with
      values := s.values.filter (·.1 ≠ name)
      exported := s.exported.filter (· ≠ name) }

/-- What a variable is now. -/
def shadow (s : State) (name : String) : Shadowed :=
  .ofName name (s.values.lookup name) (name ∈ s.exported) (name ∈ s.fixed)

/-- The state with something as it was. -/
def restore (s : State) : Shadowed → State
  | .ofOptions options => { s with options }
  | .ofName name value exported fixed =>
    let others := s.values.filter (·.1 ≠ name)
    let mark (holds : Bool) (names : List String) : List String :=
      if holds then name :: names.filter (· ≠ name) else names.filter (· ≠ name)
    { s with
      values := value.elim others fun value => (name, value) :: others
      exported := mark exported s.exported
      fixed := mark fixed s.fixed }

/-- The state after a command: a failure that nothing tests for may end the shell. -/
def settle (s : State) : State :=
  if s.options.strict && !s.tested && s.status ≠ 0 && s.flow = .goOn then
    { s with flow := .ended }
  else s

/-- The characters that part fields. -/
def separators (s : State) : List Char :=
  match s.values.lookup "IFS" with
  | some text => text.toList
  | none => [' ', '\t', '\n']

/-- The arguments in one text, with the first separator between. -/
def joinedArguments (s : State) : String :=
  (String.ofList (s.separators.take 1)).intercalate s.arguments

/-- The value of a parameter. -/
def value? (s : State) (name : String) : Option String :=
  if name = "?" then some (toString s.status)
  else if name = "$" then some (toString s.number)
  else if name = "#" then some (toString s.arguments.length)
  else if name = "@" || name = "*" then
    if s.arguments.isEmpty then none else some s.joinedArguments
  else if name = "-" then some s.options.text
  else if name = "!" then s.lastJob.map toString
  else
    match wholeNumber? name with
    | some 0 => some s.name
    | some (n + 1) => s.arguments[n]?
    | none => s.values.lookup name

/-- The variables that programs are given, with their values. -/
def given (s : State) : List (String × String) :=
  s.values.filter (·.1 ∈ s.exported)

/-- Where a shell keeps a variable, which tells the order in which programs get them. -/
def shelf (name : String) : Nat :=
  let codes := name.toList.map Char.toNat
  (16 * codes.headD 0 + total codes) % 39

/-- The state with the variables in the order in which a shell keeps them. -/
def inShelfOrder (s : State) : State :=
  { s with values := s.values.reverse.mergeSort fun a b => shelf a.1 ≤ shelf b.1 }

/-- The state with a program that has been searched for. -/
def track (name : String) (s : State) : State :=
  if '/' ∈ name.toList then s else { s with tracked := name :: s.tracked.filter (· ≠ name) }

/-- The shell in which a program runs. -/
def forProgram (s : State) (name : String) (arguments : List String) : State :=
  { s with
    toSituation := .initial (s.number + 1) name arguments s.given s.table
    jobs := []
    lost := false }

/-- The shell after the start of one, with the variables that every shell has. -/
def asShell (s : State) : State :=
  let own := [("IFS", " \t\n"), ("OPTIND", "1"), ("PPID", toString (s.number - 1)),
    ("PWD", pathText s.files.workingDirectory)]
  let usual := [("PS1", "# "), ("PS2", "> "), ("PS4", "+ ")]
  let given := s.values.filter fun entry => (own.lookup entry.1).isNone
  { s with values := own ++ given ++ usual.filter fun entry => (given.lookup entry.1).isNone }

/-- The state of a copy of a shell. Only signals that do nothing still do nothing there. -/
def copied (s : State) : State :=
  { s with
    traps := s.traps.filter (·.2.isEmpty)
    isCopy := true
    jobs := [] }

/-- What remains of a copy of a shell or of a program: files, streams, signals and its exit code. A
signal that has ended it is told of. -/
def after (before after : State) : State :=
  let s :=
    { after with
      toSituation := before.toSituation
      files := { after.files with workingDirectory := before.files.workingDirectory }
      jobs := before.jobs
      lost := before.lost }
  match after.killed with
  | none => s.finish after.status
  | some signal =>
    (if signal.notice.isEmpty then s else s.complain signal.notice).finish signal.status

/-- What remains of a shell in whose place a program has run. -/
def replacedBy (before ended : State) : State :=
  { before.after { ended with killed := none } with
    killed := ended.killed
    flow := .ended
    traps := [] }

/-- The text that has been written to a buffer. -/
def written (s : State) (index : Nat) : List UInt8 :=
  match s.opened[index]? with
  | some (.buffer bytes) => bytes.reverse
  | _ => []

/-- Runs with the output in a buffer of its own, and gives what has been written there. -/
def capture (run : State → State) (s : State) : List UInt8 × State :=
  let after := run (s.openAs 1 (.buffer []))
  (after.written s.opened.size, { after with table := s.table })

end State

/-! ### Starting programs -/

/-- Runs the program of a name with arguments, unless it cannot be run. -/
abbrev Start := String → List String → State → Except Failure State

/-- The exit code for a program that cannot be run. -/
def refusal (failure : Failure) : Nat := if failure = .notFound then 127 else 126

/-- The state after a script has run in a shell of a name, and how it has ended: with its exit code,
or with the number of a signal after 256. -/
def runScript (start : Start) (shell script : String) (s : State) : Nat × State :=
  match start shell ["-c", script] s with
  | .error failure => (refusal failure, s)
  | .ok ended =>
    let status :=
      match ended.killed with
      | some signal => 256 + signal.number
      | none => ended.status
    (status, s.after { ended with killed := none })

end PluginBuild.Shell
