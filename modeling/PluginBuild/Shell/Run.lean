import PluginBuild.Shell.Expansion
import PluginBuild.Shell.Reader
import PluginBuild.Shell.Runners
/-!
# Running scripts

What the commands of a script do, one after the other. A script that does not end within `fuel`
steps is cut off.
-/

namespace PluginBuild.Shell

open Files (Failure)

namespace State

/-- The state with a program or script cut off. -/
def cutOff (s : State) : State := { s with flow := .ended }

/-- The state after a redirection that cannot be done. -/
def refuse (message : String) (s : State) : State :=
  if message.startsWith "Syntax error" then s.raise message else s.report 2 message

/-- The targets of redirections. -/
def expandRedirects (capture : Capture) (s : State) :
    List Redirect → List (Nat × Redirection × String) × State
  | [] => ([], s)
  | .mk number redirection target :: rest =>
    let (text, s) := expandText capture false target s
    if s.flow ≠ .goOn then ([], s)
    else
      let (more, s) := expandRedirects capture s rest
      ((number, redirection, String.ofList text) :: more, s)

/-- Runs with streams as redirections lead them. -/
def redirecting (capture : Capture) (redirects : List Redirect) (run : State → State) (s : State) :
    State :=
  let (targets, s) := s.expandRedirects capture redirects
  if s.flow ≠ .goOn then s
  else
    match s.redirectAll targets with
    | (none, opened) => (run opened).restoreStreams s (targets.map (·.1))
    | (some message, opened) => { opened with table := s.table }.refuse message |>.settle

/-- The command that words make, which another utility only passes on. -/
def passedOn? : List String → Option (List String)
  | [] => none
  | word :: rest =>
    match word.toList with
    | ['-', '-'] => if rest.isEmpty then none else some rest
    | '-' :: c :: letters => if (c :: letters).all (· = 'p') then passedOn? rest else none
    | _ => some (word :: rest)

/-- The command that words call, and whether functions have no part in it. -/
def called : Nat → Bool → List String → List String × Bool
  | fuel + 1, isPassedOn, "command" :: rest =>
    match passedOn? rest with
    | some words => called fuel true words
    | none => ("command" :: rest, isPassedOn)
  | _, isPassedOn, words => (words, isPassedOn)

/-- Whether a command declares variables. -/
def declares (words : List String) : Bool :=
  match (called words.length false words).1 with
  | name :: _ => name ∈ ["export", "readonly", "local"]
  | [] => false

/-- The texts of the words of a command, of which some have been expanded. The values that
declarations assign are not cut. -/
def expandCommand (capture : Capture) (before : List String) (s : State) :
    List Word → List String × State
  | [] => (before, s)
  | word :: rest =>
    let (texts, s) :=
      match if declares before then assignment? word else none with
      | some (name, value) =>
        let (text, s) := expandText capture true value s
        ([name ++ "=" ++ String.ofList text], s)
      | none => expandWords capture [word] s
    if s.flow ≠ .goOn then ([], s) else expandCommand capture (before ++ texts) s rest

/-- Assigns the values before a command, and gives them. With `exports` programs get them. -/
def assignAll (capture : Capture) (exports : Bool) (s : State) :
    List (String × Word) → List (String × String) × State
  | [] => ([], s)
  | (name, word) :: rest =>
    let (text, s) := expandText capture true word s
    let s := if s.flow = .goOn then s.assign name (String.ofList text) else s
    if s.flow ≠ .goOn then ([], s)
    else
      let s := if exports then { s with exported := name :: s.exported.filter (· ≠ name) } else s
      let (more, s) := assignAll capture exports s rest
      ((name, String.ofList text) :: more, s)

/-- Prints a command before it runs, to where messages went before its redirections. -/
def trace (before : State) (values : List (String × String)) (words : List String) (s : State) :
    State :=
  if s.options.traces then
    let texts := values.map (fun (name, value) => name ++ "=" ++ value) ++ words
    let line := (s.value? "PS4").getD "" ++ " ".intercalate texts
    { { s with table := before.table }.complain line with table := s.table }
  else s

/-- Runs what a failure is tested for in. -/
def testing (run : State → State) (s : State) : State :=
  { run { s with tested := true } with tested := s.tested }

/-- Runs a loop. -/
def looping (run : State → State) (s : State) : State :=
  { run { s with loops := s.loops + 1 } with loops := s.loops }

/-- The state after a round of a loop, and whether the loop goes on. -/
def afterRound (s : State) : Bool × State :=
  match s.flow with
  | .goOn => (true, s)
  | .leaveLoops count =>
    (false, { s with flow := if count ≤ 1 then .goOn else .leaveLoops (count - 1) })
  | .nextRound count =>
    if count ≤ 1 then (true, { s with flow := .goOn })
    else (false, { s with flow := .nextRound (count - 1) })
  | .leaveFunction | .failed | .ended => (false, s)

/-- The rounds of a loop over words. -/
def rounds (body : State → State) (name : String) (s : State) : List String → State
  | [] => s
  | word :: rest =>
    let s := s.assign name word
    if s.flow ≠ .goOn then s
    else
      let (goesOn, s) := (body s).afterRound
      if goesOn then rounds body name s rest else s

/-- Whether one of some patterns fits a text. -/
def fitsAny (capture : Capture) (text : List Char) (s : State) : List Word → Bool × State
  | [] => (false, s)
  | word :: rest =>
    let (pattern, s) := expandPattern capture word s
    if s.flow ≠ .goOn then (false, s)
    else if pattern.fits text then (true, s)
    else fitsAny capture text s rest

/-- The first script of which a pattern fits a text. -/
def arm? (capture : Capture) (text : List Char) (s : State) :
    List (List Word × Script) → Option Script × State
  | [] => (none, s)
  | (patterns, body) :: rest =>
    let (fits, s) := fitsAny capture text s patterns
    if s.flow ≠ .goOn then (none, s)
    else if fits then (some body, s)
    else arm? capture text s rest

/-- The state after the parts of a pipeline, each of which reads what the one before it writes. -/
def piped (part : Script → State → State) : List Script → State → State
  | [], s => s
  | [script], s => part script s
  | script :: rest, s =>
    let (bytes, after) := s.capture (part script)
    { piped part rest (after.openAs 0 (.source bytes false)) with table := s.table }

/-- The state with the program searched for that a script calls by its name, if it is one. -/
def trackProgram (s : State) : Script → State
  | .simple _ _ (word :: _) _ =>
    match (Word.plain? word).map String.ofList with
    | some name =>
      if isShellUtility name ∨ (s.functions.lookup name).isSome then s
      else if (s.programPath s.search name).isOk then s.track name
      else s
    | none => s
  | _ => s

/-- The state with a script that nobody waits for. -/
def addJob (script : Script) (s : State) : State :=
  let copy := s.copied.openAs 0 .nowhere
  let number := firstJob + s.started
  let job : Job :=
    { number, script
      situation := { copy.toSituation with tested := false }
      directory := s.files.workingDirectory
      status := none
      killed := none
      isOver := false }
  { s.finish 0 with
    opened := copy.opened
    started := s.started + 1
    lastJob := some number
    jobs := s.jobs ++ [job] }

/-- The shell in which a script runs that nobody waits for. -/
def forJob (job : Job) (s : State) : State :=
  { s with
    toSituation := job.situation
    files := { s.files with workingDirectory := job.directory }
    jobs := []
    lost := false }

/-- The state after a script that nobody waits for. -/
def afterJob (job : Job) (before after : State) : State :=
  let ended : Job :=
    { job with
      status := some (after.killed.elim after.status Signal.status)
      killed := after.killed }
  { after with
    toSituation := before.toSituation
    files := { after.files with workingDirectory := before.files.workingDirectory }
    jobs := before.jobs.map fun (other : Job) =>
      if other.number = job.number then ended else other
    lost := before.lost }

/-- The state with the exit code of a script that has been waited for. -/
def collect (job : Job) (s : State) : State :=
  let told := { job with killed := none, isOver := true }
  let s := { s with
    jobs := s.jobs.map fun (other : Job) => if other.number = job.number then told else other }
  (match job.killed with
    | some signal => if signal.notice.isEmpty then s else s.complain signal.notice
    | none => s).finish (job.status.getD 0)

/-- The path of a script for the shell. A name without a slash is searched for. -/
def scriptPath? (s : State) (name : String) : Option String :=
  if '/' ∈ name.toList then some name
  else (searchedPaths s.search name).find? fun path => (s.files.read (pathOf path)).isOk

/-- The text of a script, without its null characters. -/
def scriptText (bytes : List UInt8) : List Char := ofBytes (bytes.filter (· ≠ 0))

/-- The text of the script at a path, which is empty in a directory. -/
def readScript (s : State) (path : String) : Except String (List Char) :=
  match s.files.find (pathOf path) with
  | .ok (.file content _) => .ok (scriptText content.toBytes)
  | .ok .directory => .ok []
  | .error failure => .error ("cannot open " ++ path ++ ": " ++ openingReason false failure)

/-- How a failure to run a program is worded. -/
def runReason (failure : Failure) : String :=
  if failure = .notFound ∨ failure = .notADirectory then "not found" else failure.reason

/-- The exit code of a failure to run a program. -/
def runStatus (failure : Failure) : Nat :=
  if failure ∈ [.notFound, .notADirectory, .tooManyLevels, .nameTooLong] then 127 else 126

/-- The state after a utility that has written to a stream that is not open. -/
def complainOfLoss (name : String) (s : State) : State :=
  if s.lost ∧ s.flow = .goOn then
    { { s with running := some name, lost := false }.report (s.status ||| 1)
        (name ++ ": I/O error") with running := s.running }
  else { s with lost := false }

/-- The state after a program that has written to a stream that is not open. -/
def failOfLoss (program : String) (s : State) : State :=
  if s.lost then
    s.fault 1 ((if program = "cat" then "standard output" else "write error") ++
      ": Bad file descriptor")
  else s

end State

mutual

/-- Runs the commands that are left to read. `ran` tells whether one has run. -/
def runLines : Nat → Bool → Reader → State → State
  | 0, _, _, s => s.cutOff
  | fuel + 1, ran, reader, s =>
    if reader.isAtEnd then if ran then s else s.finish 0
    else
      match reader.readLine s.aliases with
      | (.error message, reader) =>
        { s with line := reader.line }.raise ("Syntax error: " ++ message)
      | (.ok none, reader) => runLines fuel ran reader s
      | (.ok (some script), reader) =>
        let after := run fuel false script s
        if after.flow = .goOn then runLines fuel true reader after else after

/-- Runs what is arranged for signals that have come. The exit code stays as it is. -/
def runTraps : Nat → State → State
  | 0, s => s.cutOff
  | fuel + 1, s =>
    let s := s.receive
    if s.flow ≠ .goOn then s
    else
      match s.trapped? with
      | none => s
      | some signal =>
        let action := (s.traps.lookup signal.name).getD ""
        let after := runLines fuel false (Reader.ofText action.toList)
          { s with
            pending := s.pending.filter (· ≠ (s.number, signal))
            kept := some (s.kept.getD s.status) }
        let after := { after with kept := s.kept }
        if after.flow = .goOn then runTraps fuel (after.finish s.status) else after

/-- Ends a shell: what is arranged for its end runs, and what nobody has waited for. -/
def endShell : Nat → State → State
  | 0, s => s
  | fuel + 1, s =>
    let ended :=
      match if s.killed.isNone then s.traps.lookup "EXIT" else none with
      | none => s
      | some action =>
        let after := runLines fuel false (Reader.ofText action.toList)
          { s with
            traps := s.traps.filter (·.1 ≠ "EXIT")
            flow := .goOn
            loops := 0
            kept := some s.status }
        if after.flow = .failed ∨ after.flow = .ended then after else after.finish s.status
    (runJobs fuel ended).finish (ended.status % 256)

/-- Runs the scripts that nobody has waited for and that have not run. -/
def runJobs : Nat → State → State
  | 0, s => s
  | fuel + 1, s =>
    s.jobs.foldl (fun s job =>
      if job.status.isNone then
        s.afterJob job (endShell fuel (run fuel true job.script (s.forJob job)))
      else s) s

/-- Waits for scripts and takes the exit code of the last one. -/
def wait : Nat → State → List String → State
  | 0, s, _ => s.cutOff
  | fuel + 1, s, [] => (runJobs fuel s).finish 0
  | fuel + 1, s, targets =>
    let s := runJobs fuel s
    targets.foldl (fun s target =>
      if s.flow ≠ .goOn then s
      else if target.startsWith "%" then s.raise ("No such job: " ++ target)
      else
        match wholeNumber? target with
        | none => s.raise ("Illegal number: " ++ target)
        | some number =>
          match s.jobs.find? (·.number = number) with
          | some job => s.collect job
          | none => s.finish 127) s

/-- Runs a script in a copy of the shell. -/
def runCopy : Nat → Script → State → State
  | 0, _, s => s.cutOff
  | fuel + 1, script, s => s.after (endShell fuel (run fuel true script s.copied))

/-- Runs a script for its output. -/
def runForOutput : Nat → Script → State → List UInt8 × State
  | 0, _, s => ([], s.cutOff)
  | fuel + 1, script, s =>
    let (bytes, after) := { s with tested := false }.capture (runCopy fuel script)
    (bytes, { after with tested := s.tested, status := s.status, captured := after.status })

/-- Runs a function. -/
def runFunction : Nat → Script → List String → State → State
  | 0, _, _, s => s.cutOff
  | fuel + 1, body, arguments, s =>
    let after := run fuel false body { s.setArguments arguments with locals := some [], loops := 0 }
    let restored := (after.locals.getD []).foldl State.restore after
    { restored with
      arguments := s.arguments
      place := s.place
      locals := s.locals
      loops := s.loops
      flow := if after.flow = .leaveFunction then .goOn else after.flow }

/-- Runs a utility that belongs to the shell. An error ends the shell if the utility is special,
and else only the utility. -/
def runUtility : Nat → Bool → String → List String → State → State
  | 0, _, _, _, s => s.cutOff
  | fuel + 1, isSpecial, name, arguments, s =>
    let inside := { s with running := some name }
    let after : State :=
      match name with
      | "eval" => runLines fuel false (Reader.ofText (" ".intercalate arguments).toList) inside
      | "." => inside.withOptions [] [] (fun options s => runFile fuel options.operands s) arguments
      | "exec" => runInstead fuel arguments inside
      | "wait" => inside.withOptions [] [] (fun options s => wait fuel s options.operands) arguments
      | "type" => describeAll inside arguments
      | "hash" => hash inside arguments
      | "command" =>
        inside.withOptions ['p', 'v', 'V'] [] (fun options s =>
          match options.operands with
          | [] => s.finish 0
          | word :: _ =>
            let (s, isThere) := describe (options.last? ['v', 'V'] = some 'V') s word
            s.finish (if isThere then 0 else 127)) arguments
      | name => (shellUtility? name).elim inside fun utility => utility inside arguments
    let after : State := { after.complainOfLoss name with running := s.running }
    if after.flow = .failed ∧ !isSpecial then { after with flow := .goOn } else after

/-- Runs the script of a file in the shell itself. -/
def runFile : Nat → List String → State → State
  | 0, _, s => s.cutOff
  | _ + 1, [], s => s.finish 0
  | fuel + 1, name :: _, s =>
    match s.scriptPath? name with
    | none => s.raise (name ++ ": not found")
    | some path =>
      match s.readScript path with
      | .error message => s.raise message
      | .ok text =>
        let after := runLines fuel false (Reader.ofText text)
          { s with running := some path, tested := false }
        { after with
          tested := s.tested
          flow := if after.flow = .leaveFunction then .goOn else after.flow }

/-- Runs a program in the place of the shell. -/
def runInstead : Nat → List String → State → State
  | 0, _, s => s.cutOff
  | _ + 1, [], s => s.finish 0
  | fuel + 1, name :: arguments, s =>
    match (s.programPath s.search name).bind fun _ =>
        startProgram fuel name arguments s.inShelfOrder with
    | .ok ended => s.replacedBy ended
    | .error failure =>
      { s.report (State.runStatus failure) (name ++ ": " ++ State.runReason failure) with
        flow := .ended }

/-- Runs a program. One that comes last in a copy of the shell takes its place. -/
def runExternal : Nat → Bool → String → List String → State → State
  | 0, _, _, _, s => s.cutOff
  | fuel + 1, last, name, arguments, s =>
    match s.programPath s.search name with
    | .error failure => s.report 127 (name ++ ": " ++ State.runReason failure)
    | .ok _ =>
      let s := s.track name
      let s := if 0 < waitingTime (name :: arguments) then runJobs fuel s else s
      match startProgram fuel name arguments s.inShelfOrder with
      | .error failure =>
        s.report (State.runStatus failure) (name ++ ": " ++ State.runReason failure)
      | .ok ended =>
        if last ∧ s.isCopy ∧ s.traps.all (·.2.isEmpty) then s.replacedBy ended else s.after ended

/-- Runs the program of a name to its end. A file that is no program is a script. -/
def startProgram : Nat → String → List String → State → Except Failure State
  | 0, _, _, s => .ok s.cutOff
  | fuel + 1, name, arguments, s =>
    match if name.isEmpty then .error .notFound else s.programPath s.search name with
    | .error failure => .error failure
    | .ok path =>
      match s.programAt runDepth path name arguments with
      | .ok program => .ok (runProgram fuel program s)
      | .error .unknownFormat =>
        .ok (runProgram fuel ⟨"sh", "/bin/sh", path :: arguments⟩ s)
      | .error failure => .error failure

/-- Runs a program to its end. -/
def runProgram : Nat → Program → State → State
  | 0, _, s => s.cutOff
  | fuel + 1, program, s =>
    let start := s.forProgram program.name program.arguments
    if program.system = "sh" ∨ program.system = "dash" then runShell fuel start
    else
      match (runner? (startProgram fuel) program.system).or (utilities.lookup program.system) with
      | some utility => (utility start start.arguments).failOfLoss program.system
      | none => start.finish 127

/-- Runs a shell to its end: a script that is an argument, that of a file, or that of the
input. -/
def runShell : Nat → State → State
  | 0, s => s.cutOff
  | fuel + 1, s =>
    let (changes, operands) := OptionChange.read [] s.arguments
    let isOn (letter : Char) : Bool := changes.any fun change => change.letter = letter && change.on
    let s := OptionChange.applyAll (changes.filter (·.letter ∉ ['c', 'l'])) s.asShell
    let operands := operands.getD []
    if s.flow ≠ .goOn then s
    else
      endShell fuel <|
        if isOn 'c' then
          match operands with
          | [] => s.raise "-c requires an argument"
          | text :: rest =>
            runLines fuel false (Reader.ofText text.toList)
              { s with name := rest.headD s.name, arguments := rest.tail }
        else
          match if isOn 's' then none else operands.head? with
          | none =>
            let (text, s) := s.takeInput
            runLines fuel false (Reader.ofText (text.filter (· ≠ '\x00')))
              { s with arguments := operands }
          | some path =>
            match s.readScript path with
            | .error message => s.raise message
            | .ok text =>
              runLines fuel false (Reader.ofText text)
                { s with name := path, arguments := operands.tail }

/-- Runs a command with the words that it is called with. -/
def runCalled : Nat → Bool → Bool → List String → State → State
  | 0, _, _, _, s => s.cutOff
  | fuel + 1, last, isSpecial, words, s =>
    match State.called words.length false words with
    | ([], _) => s.finish s.captured
    | (name :: arguments, isPassedOn) =>
      match if isPassedOn then none else s.functions.lookup name with
      | some body => runFunction fuel body arguments s
      | none =>
        if isShellUtility name then runUtility fuel isSpecial name arguments s
        else runExternal fuel last name arguments s

/-- Runs a simple command. -/
def runSimple : Nat → Bool → List (String × Word) → List Word → List Redirect → State → State
  | 0, _, _, _, _, s => s.cutOff
  | fuel + 1, last, assignments, words, redirects, s =>
    let capture : Capture := runForOutput fuel
    let (words, s) := { s with captured := 0 }.expandCommand capture [] words
    let (targets, s) := if s.flow = .goOn then s.expandRedirects capture redirects else ([], s)
    let isSpecial := words.head?.any isSpecialUtility
    let command := (State.called words.length false words).1
    let keepsStreams := command.head? = some "exec"
    if s.flow ≠ .goOn then s
    else
      match s.redirectAll targets with
      | (some message, opened) =>
        let failed := { opened with table := s.table }.refuse message
        if isSpecial then { failed with flow := .failed } else failed.settle
      | (none, opened) =>
        let isTemporary := !words.isEmpty && !isSpecial
        let shadowed := if isTemporary then assignments.map (opened.shadow ·.1) else []
        let (values, given) := opened.assignAll capture
          (isTemporary || (keepsStreams && command.length > 1)) assignments
        let after :=
          if given.flow ≠ .goOn then given
          else runCalled fuel last isSpecial words (State.trace s values words given)
        let restored := shadowed.foldl State.restore after
        (if keepsStreams then restored
          else restored.restoreStreams s (targets.map (·.1))).settle

/-- Runs a loop. Its exit code is that of the last round, which has had `status`. -/
def runLoop : Nat → Bool → Script → Script → Nat → State → State
  | 0, _, _, _, _, s => s.cutOff
  | fuel + 1, goOn, condition, body, status, s =>
    let tested := s.testing (run fuel false condition)
    if tested.flow ≠ .goOn then
      match tested.afterRound with
      | (true, s) => runLoop fuel goOn condition body status s
      | (false, after) =>
        match tested.flow with
        | .leaveLoops _ | .nextRound _ => after.finish status
        | _ => after
    else if (tested.status = 0) ≠ goOn then tested.finish status
    else
      match (run fuel false body tested).afterRound with
      | (true, s) => runLoop fuel goOn condition body s.status s
      | (false, s) => s

/-- Runs a script. `last` tells whether nothing follows it in its shell. -/
def run : Nat → Bool → Script → State → State
  | 0, _, _, s => s.cutOff
  | fuel + 1, last, script, s =>
    let capture : Capture := runForOutput fuel
    let after :=
      if s.options.onlyReads then s
      else
      match script with
      | .nothing => s.finish 0
      | .simple line assignments words redirects =>
        runSimple fuel last assignments words redirects { s with line }
      | .redirected line script redirects =>
        { s with line }.redirecting capture redirects (run fuel false script)
      | .pipe scripts =>
        ((scripts.foldl State.trackProgram s).piped (runCopy fuel) scripts).settle
      | .background script => s.addJob script
      | .negated script =>
        let s := s.testing (run fuel false script)
        if s.flow = .goOn then s.finish (if s.status = 0 then 1 else 0) else s
      | .sequence first second =>
        let s := run fuel false first s
        if s.flow = .goOn then run fuel last second s else s
      | .andThen first second =>
        let s := s.testing (run fuel false first)
        if s.flow = .goOn ∧ s.status = 0 then run fuel last second s else s
      | .orElse first second =>
        let s := s.testing (run fuel false first)
        if s.flow = .goOn ∧ s.status ≠ 0 then run fuel last second s else s
      | .branch condition yes no =>
        let s := s.testing (run fuel false condition)
        if s.flow ≠ .goOn then s
        else if s.status = 0 then run fuel last yes s
        else run fuel last no s
      | .loop goOn condition body => s.looping (runLoop fuel goOn condition body 0)
      | .each line name words body =>
        let (texts, s) :=
          match words with
          | some words => expandWords capture words { s with line }
          | none => (s.arguments, { s with line })
        if s.flow ≠ .goOn then s
        else (s.finish 0).looping fun s => s.rounds (run fuel false body) name texts
      | .choose line word arms =>
        let (text, s) := expandText capture false word { s with line }
        if s.flow ≠ .goOn then s
        else
          match s.arm? capture text arms with
          | (some body, s) => run fuel last body s
          | (none, s) => if s.flow = .goOn then s.finish 0 else s
      | .subshell line script redirects =>
        let (targets, s) := { s with line }.expandRedirects capture redirects
        if s.flow ≠ .goOn then s
        else
          let inside :=
            match s.copied.redirectAll targets with
            | (some message, opened) => { opened with table := s.table }.raise message
            | (none, opened) => run fuel true script opened
          (s.after (endShell fuel inside)).settle
      | .define name body => { s with functions := (name, body) :: s.functions }.finish 0
    if after.pending.isEmpty then after else runTraps fuel after

end

/-- The number of steps after which a script is cut off. -/
def stepLimit : Nat := 100000

end PluginBuild.Shell
