import PluginBuild.Shell.Blocks
import PluginBuild.Shell.Columns
import PluginBuild.Shell.Comparing
import PluginBuild.Shell.Control
import PluginBuild.Shell.Copying
import PluginBuild.Shell.Inspection
import PluginBuild.Shell.FileTools
import PluginBuild.Shell.Interpreter
import PluginBuild.Shell.Joining
import PluginBuild.Shell.Pieces
import PluginBuild.Shell.ReadLine
import PluginBuild.Shell.Search
import PluginBuild.Shell.Sorting
import PluginBuild.Shell.StreamEditor
import PluginBuild.Shell.Sums
import PluginBuild.Shell.Tabs
import PluginBuild.Shell.Token
import PluginBuild.Shell.Values
/-!
# Utilities

The utilities by their names: those that are programs of the system, and those that belong to the
shell. The ones that run other commands are not among them.
-/

namespace PluginBuild.Shell

/-- What a utility does with its arguments. -/
abbrev Utility := State → List String → State

/-- Prints the name of the system, or what else there is to know about it. -/
def systemName : Utility :=
  State.withArguments
    ⟨['a', 's', 'n', 'r', 'v', 'm', 'p', 'i', 'o'], [],
      [("all", 'a'), ("kernel-name", 's'), ("nodename", 'n'), ("machine", 'm'),
        ("operating-system", 'o')], true⟩ 1
    fun options s =>
      let text :=
        match options.options.head?.map (·.1) with
        | some 'm' => "x86_64"
        | some 'n' => "localhost"
        | some 'o' => "GNU/Linux"
        | _ => "Linux"
      (s.print (text.toList ++ ['\n'])).finish 0

/-- Prints the paths of programs. -/
def programPaths (s : State) (arguments : List String) : State :=
  arguments.foldl (fun s name =>
    match s.programPath s.search name with
    | .ok path =>
      if (s.executable path).isOk then s.print (path.toList ++ ['\n']) else s.finish 1
    | .error _ => s.finish 1) (s.finish (if arguments.isEmpty then 1 else 0))

/-- Prints the full paths of files. There are no links to be read. -/
def readlink : Utility :=
  withOperands
    ⟨['f', 'e', 'm', 'n', 'q', 's', 'v', 'z'], [],
      [("canonicalize", 'f'), ("canonicalize-existing", 'e'), ("canonicalize-missing", 'm'),
        ("no-newline", 'n')], true⟩ "missing operand"
    fun options s =>
      options.operands.foldl (fun s name =>
        let found :=
          match options.last? ['f', 'e', 'm'] with
          | none => none
          | some letter =>
            match s.files.locateEntry (pathOf name) with
            | .ok location =>
              if letter = 'e' ∧ !s.files.contains (pathOf name) then none
              else some (pathText location)
            | .error _ =>
              if letter = 'm' then some (inside (pathText s.files.workingDirectory) name) else none
        match found with
        | some path => s.print (path.toList ++ if options.has 'n' then [] else ['\n'])
        | none => s.finish 1) (s.finish 0)

/-- Makes a file or directory under a name that is not there yet. -/
def makeTemporary : Utility :=
  State.withArguments ⟨['d', 'u', 'q', 't'], ['p'], [("directory", 'd'), ("tmpdir", 'p')], true⟩ 1
    fun options s =>
      let template := options.operands.headD "tmp.XXXXXXXXXX"
      let place (path : String) : String :=
        if options.operands.isEmpty ∨ options.has 't' then
          inside ((options.value? 'p').getD ((s.value? "TMPDIR").getD "/tmp")) path
        else path
      let size := (template.toList.reverse.takeWhile (· = 'X')).length
      let start := String.ofList (template.toList.take (template.length - size))
      if size < 3 then
        s.fault 1 ("too few X's in template " ++ named template)
      else
        let names := (List.range 1000).map fun n =>
          place (start ++ String.ofList ((Nat.toDigits 10 n).leftpad size 'a'))
        match names.find? fun name => !s.files.contains (pathOf name) with
        | none => s.fault 1 ("failed to create file via template " ++ named template)
        | some name =>
          match s.files.locate (pathOf name) with
          | .error failure =>
            s.fault 1 ("failed to create " ++ (if options.has 'd' then "directory" else "file") ++
              " via template " ++ named (place template) ++ ": " ++ failure.reason)
          | .ok location =>
            let node := if options.has 'd' then .directory else .file (.bytes []) false
            ({ s with files := s.files.put location node }.print
              (name.toList ++ ['\n'])).finish 0

/-- Prints a text and ends with an exit code, without operands. Some programs can be silent. -/
def tells (silent : List Char) (status : Nat) (text : String) : Utility :=
  State.withArguments ⟨silent, [], [], true⟩ 1 fun options s =>
    match options.operands with
    | [] =>
      (if options.options.isEmpty then s.print (text.toList ++ ['\n']) else s).finish status
    | extra :: _ => s.misused 1 ("extra operand " ++ named extra)

/-- Prints who runs the program. -/
def identity : Utility :=
  State.withArguments ⟨['a', 'u', 'g', 'G', 'n', 'r', 'z'], [],
    [("user", 'u'), ("group", 'g'), ("groups", 'G'), ("name", 'n'), ("real", 'r')], true⟩ 1
    fun options s =>
      let kinds := ['u', 'g', 'G'].filter options.has
      let text :=
        if kinds.isEmpty then "uid=0(root) gid=0(root) groups=0(root)"
        else if options.has 'n' then "root"
        else "0"
      if 1 < kinds.length then s.fault 1 "cannot print \"only\" of more than one choice"
      else if kinds.isEmpty ∧ (options.has 'n' ∨ options.has 'r') then
        s.fault 1 "cannot print only names or real IDs in default format"
      else
        let names := if options.operands.isEmpty then ["root"] else options.operands
        names.foldl (fun s name =>
          if name = "root" ∨ name = "0" then s.print (text.toList ++ ['\n'])
          else s.fault 1 (named name ++ ": no such user")) (s.finish 0)

/-- The utilities that are programs. -/
def utilities : List (String × Utility) :=
  [("[", testProgramInBrackets), ("arch", tells [] 0 "x86_64"),
    ("base32", encodeAs .base32), ("base64", encodeAs .base64), ("basename", basename),
    ("cat", cat), ("chmod", chmod), ("cksum", printChecks), ("cmp", cmp), ("comm", comm),
    ("cp", cp), ("cut", cut), ("date", fun s _ => s.finish 0), ("dd", dd), ("diff", diff),
    ("dirname", dirname), ("echo", echoProgram), ("egrep", grepAs "egrep" "-E"),
    ("expand", expandTabs), ("expr", expr), ("false", fun s _ => s.finish 1),
    ("fgrep", grepAs "fgrep" "-F"), ("fold", fold), ("grep", grep), ("groups", tells [] 0 "root"),
    ("head", head), ("id", identity), ("install", installFiles), ("join", joinFiles),
    ("kill", kill), ("ln", ln), ("ls", ls), ("mkdir", mkdir), ("mktemp", makeTemporary),
    ("mv", mv), ("nl", nl), ("od", od), ("paste", paste), ("printenv", printenv),
    ("printf", printfProgram), ("pwd", fun s _ => printDirectory s), ("readlink", readlink),
    ("realpath", realpath), ("rev", rev), ("rm", rm), ("rmdir", rmdir), ("sed", sed),
    ("seq", seq), ("sleep", sleep), ("sort", sort), ("split", splitFile), ("stat", stat),
    ("sum", printSums), ("sync", fun s _ => s.finish 0), ("tac", tac), ("tail", tail),
    ("tee", tee), ("test", testProgram), ("touch", touch), ("tr", tr),
    ("true", fun s _ => s.finish 0), ("truncate", setLengths),
    ("tty", tells ['s'] 1 "not a tty"),
    ("uname", systemName), ("unexpand", putTabs), ("uniq", uniq), ("unlink", removeName),
    ("wc", wc), ("which", programPaths), ("whoami", tells [] 0 "root"), ("yes", yes)] ++
  DigestKind.all.map fun entry => (entry.1 ++ "sum", digestSums entry.2)

/-- Prints what scripts nobody waits for, the last one first, and forgets those that have ended. -/
def jobs (s : State) : State :=
  let all := (s.jobs.zipIdx.filter fun entry => !entry.1.isOver).reverse
  let line (job : Job) (index place : Nat) : String :=
    let sign := if place = 0 then "+ " else if place = 1 then "- " else "  "
    let state :=
      match job.status, job.killed with
      | none, _ => "Running"
      | some _, some signal => signal.notice
      | some 0, none => "Done"
      | some status, none => "Done(" ++ toString status ++ ")"
    "[" ++ toString (index + 1) ++ "] " ++ sign ++ String.ofList (state.toList.rightpad 27 ' ')
  let lines := all.zipIdx.map fun ((job, index), place) => (line job index place).toList
  { (s.print (joinLines lines)).finish 0 with
    jobs := s.jobs.map fun job => { job with isOver := job.isOver || job.status.isSome } }

/-- Says that there is no command to be resumed. -/
def resume (s : State) (arguments : List String) : State :=
  s.raise (arguments.head?.elim "No current job" ("No such job: " ++ ·))

/-- The utilities that belong to the shell and have a meaning of their own to it. -/
def specialUtilities : List (String × Utility) :=
  [(":", fun s _ => s.finish 0), ("break", endLoops .leaveLoops), ("continue", endLoops .nextRound),
    ("exit", endShellWith), ("export", exportNames), ("local", localize),
    ("readonly", fixNames), ("return", endFunction), ("set", setAll), ("shift", shift),
    ("times", fun s _ => times s), ("trap", trap), ("unset", unset)]

/-- The utilities that belong to the shell and are like those that do not. -/
def shellUtilities : List (String × Utility) :=
  [("[", testInBrackets), ("alias", aliasNames), ("bg", resume), ("cd", changeDirectory),
    ("chdir", changeDirectory), ("echo", echo), ("false", fun s _ => s.finish 1),
    ("fg", resume), ("getopts", getOptions), ("jobs", fun s _ => jobs s), ("kill", kill),
    ("printf", printf), ("pwd", State.withOptions ['L', 'P'] [] fun _ s => printDirectory s),
    ("read", read), ("test", test), ("true", fun s _ => s.finish 0), ("ulimit", limits),
    ("umask", mask),
    ("unalias", unalias)]

/-- The special utilities that run commands. -/
def specialRunners : List String := [".", "eval", "exec"]

/-- The other utilities of the shell that run commands or tell about them. -/
def shellRunners : List String := ["command", "hash", "type", "wait"]

/-- Whether a name is one of a special utility of the shell. -/
def isSpecialUtility (name : String) : Bool :=
  (specialUtilities.lookup name).isSome || name ∈ specialRunners

/-- Whether a name is one of a utility of the shell. -/
def isShellUtility (name : String) : Bool :=
  isSpecialUtility name || (shellUtilities.lookup name).isSome || name ∈ shellRunners

/-- The utility of the shell that a name stands for. -/
def shellUtility? (name : String) : Option Utility :=
  (specialUtilities.lookup name).or (shellUtilities.lookup name)

/-- Searches for programs, or prints the paths of those that have been searched for. -/
def hash : Utility :=
  State.withOptions ['r', 'v'] [] fun arguments s =>
    if arguments.has 'r' then { s.finish 0 with tracked := [] }
    else if arguments.operands.isEmpty then
      let paths := s.tracked.filterMap fun name => (s.programPath s.search name).toOption
      (s.print (joinLines (paths.map String.toList))).finish 0
    else
      arguments.operands.foldl (fun s name =>
        if isShellUtility name ∨ (s.functions.lookup name).isSome then s
        else if (s.programPath s.search name).isOk then s.track name
        else s.report 1 (name ++ ": not found")) (s.finish 0)

/-- Tells what a name stands for, and whether that is something. With `fully` it is told what kind
of thing that is. -/
def describe (fully : Bool) (s : State) (name : String) : State × Bool :=
  let tell (text full : String) : State × Bool :=
    (s.print ((if fully then name ++ full else text).toList ++ ['\n']), true)
  if name ∈ Token.keywords then tell name " is a shell keyword"
  else
    match s.aliases.lookup name with
    | some text =>
      tell ("alias " ++ name ++ "=" ++ String.ofList (inQuotes text.toList))
        (" is an alias for " ++ text)
    | none =>
      if (s.functions.lookup name).isSome then tell name " is a shell function"
      else if isSpecialUtility name then tell name " is a special shell builtin"
      else if isShellUtility name then tell name " is a shell builtin"
      else
        match s.programPath s.search name with
        | .ok path =>
          if (s.executable path).isOk ∨ ('/' ∈ name.toList ∧ s.files.contains (pathOf name)) then
            let full := (if name ∈ s.tracked then " is a tracked alias for " else " is ") ++ path
            ((s.track name).print ((if fully then name ++ full else path).toList ++ ['\n']), true)
          else (if fully then s.print (name ++ ": not found\n").toList else s, false)
        | .error _ => (if fully then s.print (name ++ ": not found\n").toList else s, false)

/-- Tells what names stand for. -/
def describeAll (s : State) (arguments : List String) : State :=
  arguments.foldl (fun s name =>
    let (s, isThere) := describe true s name
    if isThere then s else s.finish 127) (s.finish 0)

end PluginBuild.Shell
