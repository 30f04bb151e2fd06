import PluginBuild.Shell.Record.Program
import PluginBuild.Shell.Utility
/-!
# Utilities that run commands

The programs that run another program, with other variables or arguments or for some time.
-/

namespace PluginBuild.Shell

open Files (Failure)

/-- Runs a program in the place of another one. -/
def handOver (start : Start) (worded : String → String) (words : List String) (s : State) : State :=
  match words with
  | [] => s.finish 0
  | name :: arguments =>
    match start name arguments s with
    | .ok ended => s.replacedBy ended
    | .error failure => s.fault (refusal failure) (worded name ++ ": " ++ failure.reason)

/-- The name of a variable in braces after a dollar sign, and what follows it. -/
def bracedName? : List Char → Option (String × List Char)
  | '\x7b' :: rest =>
    let name := rest.takeWhile isNamePart
    match rest.drop name.length with
    | '\x7d' :: after =>
      if name.head?.any isNameStart then some (String.ofList name, after) else none
    | _ => none
  | _ => none

/-- The arguments in a text with quotes, backslashes and variables, or what is wrong with it. The
characters of an argument are reversed; there is none where `item` is `none`. -/
def splitArguments (s : State) (quote : Option Char) (item : Option (List Char)) :
    Nat → List Char → Except String (List String)
  | 0, _ => .ok []
  | fuel + 1, text => do
    let ended : List String := (item.map fun item => String.ofList item.reverse).toList
    let held := item.getD []
    match text with
    | [] =>
      if quote.isSome then throw "no terminating quote in -S string"
      return ended
    | c :: rest =>
      if (c = '\'' ∨ c = '"') ∧ (quote = none ∨ quote = some c) then
        splitArguments s (if quote.isNone then some c else none) (some held) fuel rest
      else if c = '\\' ∧ (quote ≠ some '\'' ∨ rest.head? = some '\\' ∨ rest.head? = some '\'') then
        match rest with
        | [] => throw "invalid backslash at end of string in -S"
        | d :: rest =>
          if d = '_' ∧ quote.isNone then
            return ended ++ (← splitArguments s none none fuel rest)
          else if d = 'c' then
            if quote.isSome then throw "'\\c' must not appear in double-quoted -S string"
            return ended
          else
            match [('_', ' '), ('f', '\x0c'), ('n', '\n'), ('r', '\r'), ('t', '\t'), ('v', '\x0b'),
              ('"', '"'), ('#', '#'), ('$', '$'), ('\'', '\''), ('\\', '\\')].lookup d with
            | some e => splitArguments s quote (some (e :: held)) fuel rest
            | none => throw ("invalid sequence '\\" ++ String.ofList [d] ++ "' in -S")
      else if c = '$' ∧ quote ≠ some '\'' then
        match bracedName? rest with
        | none =>
          throw ("only $\x7bVARNAME\x7d expansion is supported, error at: " ++ String.ofList text)
        | some (name, rest) =>
          let item := (s.given.lookup name).elim item fun value =>
            some (value.toList.reverse ++ held)
          splitArguments s quote item fuel rest
      else if quote.isNone ∧ isSpace c then
        return ended ++ (← splitArguments s none none fuel rest)
      else if quote.isNone ∧ item.isNone ∧ c = '#' then return []
      else splitArguments s quote (some (c :: held)) fuel rest

/-- Arguments in which an option that gives several of them in one text is these. -/
def withSplitArguments (s : State) : List String → Except String (List String)
  | [] => .ok []
  | argument :: rest => do
    let split (text : List Char) : Except String (List String) :=
      splitArguments s none none (text.length + 1) text
    match argument.toList with
    | ['-', '-'] => return argument :: rest
    | '-' :: '-' :: name =>
      let before := name.takeWhile (· ≠ '=')
      if before = "split-string".toList then
        if before.length < name.length then
          return (← split (name.drop (before.length + 1))) ++ rest
        else
          match rest with
          | [] => return [argument]
          | text :: rest => return (← split text.toList) ++ rest
      else return argument :: (← withSplitArguments s rest)
    | '-' :: c :: letters =>
      let before := (c :: letters).takeWhile (· ∉ ['S', 'u', 'C'])
      let options := if before.isEmpty then [] else [String.ofList ('-' :: before)]
      match (c :: letters).drop before.length, rest with
      | ['S'], text :: rest => return options ++ (← split text.toList) ++ rest
      | 'S' :: d :: text, rest => return options ++ (← split (d :: text)) ++ rest
      | [_], value :: rest => return argument :: value :: (← withSplitArguments s rest)
      | _, rest => return argument :: (← withSplitArguments s rest)
    | _ => return argument :: rest

/-- The state in another directory. -/
def inDirectory (name : String) (s : State) : Except Failure State := do
  let location ← s.files.locate (pathOf name)
  match ← s.files.find (pathOf name) with
  | .directory => return { s with files := { s.files with workingDirectory := location } }
  | .file .. => throw .notADirectory

/-- Runs a program of words, of which the first one may be a text of several of them. -/
def runSplit (start : Start) (words : List String) (s : State) : State :=
  match words with
  | [] => s.finish 0
  | name :: arguments =>
    match start name arguments s with
    | .ok ended => s.replacedBy ended
    | .error failure =>
      let after := s.fault (refusal failure) (named name ++ ": " ++ failure.reason)
      if failure = .notFound ∧ name.toList.any isSpace then
        after.complain (s.name ++ ": use -[v]S to pass options in shebang lines")
      else after

/-- Runs a program with other variables, or prints them. -/
def runWithVariables (start : Start) : Utility :=
  State.withArguments
    ⟨['i', '0', 'v'], ['u', 'C'],
      [("ignore-environment", 'i'), ("null", '0'), ("unset", 'u'), ("chdir", 'C')], false⟩ 125
    fun options s =>
      let isEmpty := options.has 'i' || options.operands.head? = some "-"
      let operands := if options.operands.head? = some "-" then options.operands.tail
        else options.operands
      let isAssignment (text : String) : Bool := '=' ∈ text.toList
      let assigned := operands.takeWhile isAssignment
      let words := operands.drop assigned.length
      let removed := options.values 'u'
      let kept := if isEmpty then [] else s.given.filter (·.1 ∉ removed)
      let values := assigned.foldl (fun values text =>
        let (name, value) := State.declaration text
        values.filter (·.1 ≠ name) ++ [(name, value.getD "")]) kept
      match removed.find? fun name => name.isEmpty || '=' ∈ name.toList with
      | some name => s.fault 125 ("cannot unset " ++ named name ++ ": Invalid argument")
      | none =>
        if words.isEmpty then
          if (options.value? 'C').isSome then
            s.misused 125 "must specify command with --chdir (-C)"
          else
            let mark := if options.has '0' then '\x00' else '\n'
            let lines := values.map fun (name, value) => (name ++ "=" ++ value).toList ++ [mark]
            (s.print lines.flatten).finish 0
        else if options.has '0' then s.misused 125 "cannot specify --null (-0) with command"
        else
          match (options.value? 'C').elim (.ok s) fun name =>
            (inDirectory name s).mapError fun failure =>
              "cannot change directory to " ++ named name ++ ": " ++ failure.reason with
          | .error message => s.fault 125 message
          | .ok s => runSplit start words { s with values, exported := values.map (·.1) }

/-- Runs a program with other variables, or prints them. Arguments may be in one text. -/
def env (start : Start) (s : State) (arguments : List String) : State :=
  match withSplitArguments s arguments with
  | .error message => s.fault 125 message
  | .ok arguments => runWithVariables start s arguments

/-- Runs a program as one that may take its time. -/
def nice (start : Start) : Utility :=
  State.withArguments ⟨[], ['n'], [("adjustment", 'n')], false⟩ 125 fun options s =>
    if options.operands.isEmpty then (s.print "0\n".toList).finish 0
    else handOver start named options.operands s

/-- Runs a program that goes on when nobody is there. -/
def nohup (start : Start) : Utility :=
  State.withArguments ⟨[], [], [], false⟩ 125 fun options s =>
    if options.operands.isEmpty then s.misused 125 "missing operand"
    else handOver start (fun name => "failed to run command " ++ named name) options.operands s

/-- How long a program waits that only waits, in thousandths of a second. -/
def waitingTime (words : List String) : Nat :=
  match words with
  | name :: arguments =>
    if baseOf name = "sleep" then total (arguments.map fun text => (duration? text).getD 0) else 0
  | [] => 0

/-- Runs a program for some time. -/
def timeout (start : Start) : Utility :=
  State.withArguments
    ⟨['v', 'f', 'p'], ['k', 's'],
      [("kill-after", 'k'), ("signal", 's'), ("foreground", 'f'), ("preserve-status", 'p'),
        ("verbose", 'v')], false⟩ 125
    fun options s =>
      match options.operands with
      | time :: word :: words =>
        match duration? time with
        | none => s.misused 125 ("invalid time interval " ++ named time)
        | some most =>
          if 0 < most ∧ most < waitingTime (word :: words) then
            s.finish (if options.has 'p' then 143 else 124)
          else handOver start (fun name => "failed to run command " ++ named name) (word :: words) s
      | _ => s.misused 125 "missing operand"

/-- The items of a text that blanks part, unless they are quoted, or the quote that nothing
closes. With `lines` only line breaks part them. The characters of an item are reversed; `opened`
tells whether there is an item. -/
def quotedItems (lines : Bool) (opened : Bool) (item : List Char) :
    Nat → List Char → Except Char (List String)
  | 0, _ => .ok []
  | fuel + 1, text =>
    let ended : List String := if opened then [String.ofList item.reverse] else []
    match text with
    | [] => .ok ended
    | '\n' :: rest => do return ended ++ (← quotedItems lines false [] fuel rest)
    | '\\' :: c :: rest => quotedItems lines true (c :: item) fuel rest
    | c :: rest =>
      if c = '\'' ∨ c = '"' then
        let inside := rest.takeWhile fun d => d ≠ c && d ≠ '\n'
        match rest.drop inside.length with
        | d :: rest =>
          if d = c then quotedItems lines true (inside.reverse ++ item) fuel rest else .error c
        | [] => .error c
      else if (c = ' ' ∨ c = '\t') ∧ (!lines ∨ !opened) then do
        return ended ++ (← quotedItems lines false [] fuel rest)
      else quotedItems lines true (c :: item) fuel rest

/-- The items of a text between the places of a character. -/
def partedItems (mark : Char) (text : List Char) : List String :=
  let parts := splitAt mark text
  ((if parts.getLast? = some [] then parts.dropLast else parts).map String.ofList)

/-- Lines, of which those that end with a blank go on in the next one. -/
def joinedLines : List (List Char) → List (List Char)
  | [] => []
  | line :: rest =>
    match joinedLines rest with
    | next :: more =>
      if line.getLast?.any fun c => c = ' ' || c = '\t' then (line ++ next) :: more
      else line :: next :: more
    | [] => [line]

/-- Items in groups of at most some number. -/
def groups (size : Nat) : Nat → List String → List (List String)
  | 0, _ | _, [] => []
  | fuel + 1, items => items.take (max 1 size) :: groups size fuel (items.drop (max 1 size))

/-- The commands that are run for the items of a text, or the quote that nothing closes. -/
def itemCommands (options : Arguments) (text : List Char) : Except Char (List (List String)) := do
  let words := if options.operands.isEmpty then ["echo"] else options.operands
  let mark := if options.has '0' then some '\x00' else
    (options.value? 'd').map fun text => if text = "\\n" then '\n' else text.toList.headD '\n'
  let fuel := text.length + 1
  let items ←
    match mark with
    | some mark => pure (partedItems mark text)
    | none => quotedItems (options.has 'I') false [] fuel text
  match options.value? 'I' with
  | some name => return items.map fun item => words.map (·.replace name item)
  | none =>
    match options.value? 'L' with
    | some count =>
      let lines := joinedLines ((linesOf text).filter fun line => !line.all isSpace)
      let parts ← (groups ((wholeNumber? count).getD 1) fuel (lines.map String.ofList)).mapM
        fun lines => quotedItems false false [] fuel (joinLines (lines.map String.toList))
      return parts.map (words ++ ·)
    | none =>
      if items.isEmpty then return if options.has 'r' then [] else [words]
      else
        let size := ((options.value? 'n').bind wholeNumber?).getD items.length
        return (groups size fuel items).map (words ++ ·)

/-- Runs commands one after the other, up to one that cannot be run or asks for an end. -/
def runInTurn (start : Start) (traces : Bool) (s : State) : List (List String) → State
  | [] => s
  | [] :: rest => runInTurn start traces s rest
  | (name :: arguments) :: rest =>
    let s := if traces then s.complain (" ".intercalate (name :: arguments)) else s
    match start name arguments (s.openAs 0 .nowhere) with
    | .error failure => s.fault (refusal failure) (name ++ ": " ++ failure.reason)
    | .ok ended =>
      let after := s.after { ended with killed := none }
      match ended.killed with
      | some signal =>
        after.fault 125 (name ++ ": terminated by signal " ++ toString signal.number)
      | none =>
        if ended.status = 255 then after.fault 124 (name ++ ": exited with status 255; aborting")
        else
          runInTurn start traces (after.finish (if ended.status = 0 then s.status else 123)) rest

/-- Runs a command for the items of the input. -/
def xargs (start : Start) (s : State) (arguments : List String) : State :=
  let before := arguments.takeWhile fun argument => argument.startsWith "-" && argument ≠ "--"
  let spelled := before.map fun argument =>
    match argument.toList with
    | ['-', 'i'] => "-I\x7b\x7d"
    | '-' :: 'i' :: name => "-I" ++ String.ofList name
    | _ => argument
  State.withArguments
    ⟨['0', 'r', 't', 'x', 'p'], ['I', 'n', 'L', 'd', 'P', 's', 'a', 'E'],
      [("null", '0'), ("no-run-if-empty", 'r'), ("verbose", 't'), ("max-args", 'n'),
        ("max-lines", 'L'), ("delimiter", 'd'), ("max-procs", 'P'), ("replace", 'I')], false⟩ 1
    (fun options s =>
      let (text, s) := s.takeInput
      match itemCommands options text with
      | .ok commands => runInTurn start (options.has 't') (s.finish 0) commands
      | .error quote =>
        s.fault 1 ("unmatched " ++ (if quote = '"' then "double" else "single") ++
          " quote; by default quotes are special to xargs unless you use the -0 option"))
    s (spelled ++ arguments.drop before.length)

/-- Runs a command with words for what is found. -/
def runWords (start : Start) (words : List String) (s : State) : State :=
  match words with
  | [] => s.finish 0
  | name :: arguments =>
    match start name arguments s with
    | .ok ended => s.after { ended with killed := none }
    | .error failure => s.fault 1 (named name ++ ": " ++ failure.reason)

/-- The utilities that run other programs. -/
def runner? (start : Start) (name : String) : Option Utility :=
  [("awk", awk start), ("env", env start), ("find", findBelow (runWords start)),
    ("mawk", awk start), ("nice", nice start), ("nohup", nohup start),
    ("timeout", timeout start), ("xargs", xargs start)].lookup name

end PluginBuild.Shell
