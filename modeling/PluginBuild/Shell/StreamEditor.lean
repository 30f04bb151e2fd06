import PluginBuild.Shell.EditorScript
import PluginBuild.Shell.Sources
/-!
# Stream editor

The utility that runs the commands of a script for every line that it reads.
-/

namespace PluginBuild.Shell

open Files (Failure)

/-- The state of a stream editor. -/
structure Editor where
  /-- The line in hand. -/
  line : List Char
  /-- Whether the line in hand ends with a line break. -/
  isBroken : Bool
  held : List Char
  /-- How many lines have been read. -/
  number : Nat
  /-- The name of the file. -/
  name : String
  /-- The character that ends lines. -/
  mark : Char
  /-- The lines that are left to read. -/
  rest : List (List Char)
  /-- What has been printed, last part first. -/
  printed : List (List Char)
  /-- Whether a line break is missing at the end of what has been printed. -/
  lacksBreak : Bool
  /-- What is printed after the line. -/
  appended : List (List Char)
  /-- The ranges that have been entered, by their commands, and the numbers of their last lines. -/
  entered : List (Nat × Option Nat)
  /-- Whether something has been replaced. -/
  replaced : Bool
  /-- The expression that was used last. -/
  lastRegex : Option Regex
  /-- The files that have been written. -/
  written : List (String × List Char)
  /-- The exit code, once the editor has been told to end. -/
  status : Option Nat
  /-- What went wrong. -/
  fault : Option String

/-- How an editor goes on after a command. -/
inductive EditorFlow
  /-- With the command of a number. -/
  | command (index : Nat)
  /-- With the next line, after the one in hand has been printed or not. -/
  | nextLine (prints : Bool)
  /-- With the commands from the start and what is left of the line. -/
  | again
  /-- Not at all, after the line in hand has been printed or not. -/
  | stop (prints : Bool)

namespace Editor

/-- The editor after a text has been printed. With `breaks` it ends as a line does. -/
def print (text : List Char) (breaks : Bool) (e : Editor) : Editor :=
  let text := if e.lacksBreak then e.mark :: text else text
  { e with
    printed := (if breaks then text ++ [e.mark] else text) :: e.printed
    lacksBreak := !breaks }

/-- The editor after a text has been printed that ends with a line break of its own. -/
def printText (text : List Char) (e : Editor) : Editor :=
  { e.print text false with lacksBreak := false }

/-- The editor after the line in hand has been printed. -/
def printLine (e : Editor) : Editor := e.print e.line e.isBroken

/-- The editor after what is printed after the line. -/
def printAppended (e : Editor) : Editor :=
  let e := e.appended.foldl (fun e text =>
    if text.isEmpty then e
    else if text.getLast? = some '\n' then e.printText text
    else e.print text false) e
  { e with appended := [] }

/-- Whether no line is left to read. -/
def isAtLast (e : Editor) : Bool := e.rest.isEmpty

/-- The next line, and the editor after it has been read. -/
def takeLine? (e : Editor) : Option (List Char × Editor) :=
  match e.rest with
  | [] => none
  | line :: rest =>
    let isBroken := line.getLast? = some e.mark
    some (if isBroken then line.dropLast else line,
      { e with rest, isBroken, number := e.number + 1, replaced := false })

/-- The editor after a file has been written to. -/
def save (name : String) (text : List Char) (e : Editor) : Editor :=
  if name = "/dev/stdout" then e.print text true
  else
    let before := (e.written.lookup name).getD []
    { e with written := (name, before ++ text ++ [e.mark]) :: e.written.filter (·.1 ≠ name) }

/-- The expression of a command, and the editor after it has been used. -/
def useRegex (regex : Option Regex) (e : Editor) : Option Regex × Editor :=
  match regex with
  | some regex => (some regex, { e with lastRegex := some regex })
  | none =>
    match e.lastRegex with
    | some regex => (some regex, e)
    | none => (none, { e with fault := some "no previous regular expression" })

/-- Whether the line in hand is the one of an address. -/
def isAt (address : Address) (e : Editor) : Bool × Editor :=
  match address with
  | .line n => (e.number = n, e)
  | .step first step =>
    (if step = 0 then e.number = first
      else first ≤ e.number && (e.number - first) % step = 0, e)
  | .last => (e.isAtLast, e)
  | .matching regex =>
    let (regex, e) := e.useRegex regex
    (regex.any fun regex => regex.isIn e.line, e)

/-- The number of the last line of a range that starts at the line in hand, where it is known. -/
def lastNumber? (e : Editor) : RangeEnd → Option Nat
  | .address (.line n) => some n
  | .address _ => none
  | .lines count => some (e.number + count)
  | .multiple 0 => some e.number
  | .multiple n => some ((e.number + n - 1) / n * n)

/-- Whether a command is about the line in hand. -/
def isSelected (index : Nat) (selector : Selector) (e : Editor) : Bool × Editor :=
  let (found, e) : Bool × Editor :=
    match selector.first, selector.last with
    | none, _ => (true, e)
    | some address, none => e.isAt address
    | some address, some last =>
      match e.entered.lookup index with
      | some (some number) =>
        if e.number < number then (true, e)
        else
          (e.number = number, { e with entered := e.entered.filter (·.1 ≠ index) })
      | some none =>
        match last with
        | .address stop =>
          let (stops, e) := e.isAt stop
          (true, if stops then { e with entered := e.entered.filter (·.1 ≠ index) } else e)
        | _ => (true, e)
      | none =>
        let (starts, e) := e.isAt address
        if !starts then (false, e)
        else
          match e.lastNumber? last with
          | some number =>
            (true, if number ≤ e.number then e
              else { e with entered := (index, some number) :: e.entered })
          | none => (true, { e with entered := (index, none) :: e.entered })
  (found != selector.negated, e)

/-- The text of characters after changes of case: one that lasts, and one for the next character. -/
def withCase (lasting once : CaseChange) : List Char → List Char × CaseChange
  | [] => ([], once)
  | c :: rest =>
    let change := if once = .none then lasting else once
    let c := if change = .upper ∨ change = .upperNext then c.toUpper
      else if change = .lower ∨ change = .lowerNext then c.toLower else c
    let (more, once) := withCase lasting .none rest
    (c :: more, once)

/-- What a replacement stands for at a match. -/
def replacementText (text : Array Char) (found : Regex.Found) :
    CaseChange → CaseChange → List ReplacementPart → List Char
  | _, _, [] => []
  | lasting, _, .change change :: rest =>
    if change = .upperNext ∨ change = .lowerNext then replacementText text found lasting change rest
    else replacementText text found change .none rest
  | lasting, once, .text s :: rest =>
    let (s, once) := withCase lasting once s
    s ++ replacementText text found lasting once rest
  | lasting, once, .group n :: rest =>
    let (first, last) := if n = 0 then (found.first, found.last)
      else (found.groups.lookup n).getD (0, 0)
    let (s, once) := withCase lasting once (text.extract first last).toList
    s ++ replacementText text found lasting once rest

/-- A text with matches replaced from a position on, and whether one has been. `count` tells how
many matches have been met, and `before` where the last one ended. -/
def substituted (regex : Regex) (substitution : Substitution) (text : Array Char) :
    Nat → Nat → Nat → Option Nat → List Char × Bool
  | 0, position, _, _ => ((text.extract position text.size).toList, false)
  | fuel + 1, position, count, before =>
    let rest : List Char := (text.extract position text.size).toList
    match if position ≤ text.size then regex.find? text position else none with
    | none => (rest, false)
    | some found =>
      let kept := (text.extract position found.first).toList
      let next : List Char := (text[found.last]?).toList
      if found.first = found.last ∧ before = some found.first then
        let (more, any) := substituted regex substitution text fuel (found.last + 1) count none
        (kept ++ next ++ more, any)
      else
        let isReplaced := substitution.first ≤ count + 1
        let image :=
          if isReplaced then
            replacementText text found .none .none substitution.replacement
          else (text.extract found.first found.last).toList
        if isReplaced ∧ !substitution.all then
          (kept ++ image ++ (text.extract found.last text.size).toList, true)
        else if found.first = found.last then
          let (more, any) :=
            substituted regex substitution text fuel (found.last + 1) (count + 1) none
          (kept ++ image ++ next ++ more, isReplaced || any)
        else
          let (more, any) :=
            substituted regex substitution text fuel found.last (count + 1) (some found.last)
          (kept ++ image ++ more, isReplaced || any)

/-- The editor after a substitution. -/
def substitute (substitution : Substitution) (e : Editor) : Editor :=
  match e.useRegex substitution.regex with
  | (none, e) => e
  | (some regex, e) =>
    let text := e.line.toArray
    let (line, any) := substituted regex substitution text (2 * text.size + 4) 0 0 none
    if !any then e
    else
      let e := { e with line, replaced := true }
      let e := if substitution.print then e.printLine else e
      substitution.file.elim e fun name => e.save name line

/-- A text in visible form, in lines of at most 69 characters. -/
def visibleText (s : List Char) : List Char :=
  let named : List (Char × List Char) :=
    [('\\', ['\\', '\\']), ('\x07', ['\\', 'a']), ('\x08', ['\\', 'b']), ('\x0c', ['\\', 'f']),
      ('\n', ['\\', 'n']), ('\r', ['\\', 'r']), ('\t', ['\\', 't']), ('\x0b', ['\\', 'v'])]
  let form (c : Char) : List Char :=
    match named.lookup c with
    | some text => text
    | none =>
      if ' ' ≤ c ∧ c ≤ '~' then [c]
      else
        let digits := Nat.toDigits 8 c.toNat
        '\\' :: List.replicate (3 - digits.length) '0' ++ digits
  let (text, _) := s.foldl (fun (text, width) c =>
    let shown := form c
    if width + shown.length > 69 then (text ++ ['\\', '\n'] ++ shown, shown.length)
    else (text ++ shown, width + shown.length)) (([] : List Char), 0)
  text ++ ['$']

/-- What an editor is set up for. -/
structure Setup where
  commands : Array EditorCommand
  /-- Whether lines are printed only when commands say so. -/
  quiet : Bool
  /-- The text of the file of a name. -/
  fileText : String → List Char

/-- The place of a label. -/
def Setup.place? (setup : Setup) (name : String) : Option Nat :=
  if name.isEmpty then some setup.commands.size
  else
    setup.commands.findIdx? fun command =>
      match command.action with
      | .label other => other = name
      | _ => false

/-- The place after the block whose commands start at a place. `depth` tells how many blocks are
open. -/
def Setup.afterBlock (setup : Setup) : Nat → Nat → Nat → Nat
  | 0, place, _ => place
  | fuel + 1, place, depth =>
    match setup.commands[place]? with
    | none => place
    | some command =>
      match command.action with
      | .block => afterBlock setup fuel (place + 1) (depth + 1)
      | .blockEnd =>
        if depth = 0 then place + 1 else afterBlock setup fuel (place + 1) (depth - 1)
      | _ => afterBlock setup fuel (place + 1) depth

/-- The part of a text up to the end of a line, and what follows it. -/
def cutLine (mark : Char) (s : List Char) : List Char × Option (List Char) :=
  let first := s.takeWhile (· ≠ mark)
  (first, if first.length = s.length then none else some (s.drop (first.length + 1)))

/-- The editor after the action of a command that it is about, and how it goes on. -/
def act (setup : Setup) (index : Nat) (command : EditorCommand) (e : Editor) :
    Editor × EditorFlow :=
  let goOn : EditorFlow := .command (index + 1)
  let jump (name : String) : EditorFlow := .command ((setup.place? name).getD setup.commands.size)
  match command.action with
  | .block | .blockEnd | .label _ | .nothing => (e, goOn)
  | .substitute substitution => (e.substitute substitution, goOn)
  | .translate pairs => ({ e with line := e.line.map fun c => (pairs.lookup c).getD c }, goOn)
  | .text .before text => (e.printText text, goOn)
  | .text .after text => ({ e with appended := e.appended ++ [text] }, goOn)
  | .text .instead text =>
    let isInside := command.selector.last.isSome && !command.selector.negated &&
      (e.entered.lookup index).isSome
    (if isInside then e else e.printText text, .nextLine false)
  | .jump none name => (e, jump name)
  | .jump (some ifReplaced) name =>
    if e.replaced = ifReplaced then ({ e with replaced := false }, jump name)
    else ({ e with replaced := false }, goOn)
  | .delete => (e, .nextLine false)
  | .deleteLine =>
    match cutLine e.mark e.line with
    | (_, some rest) => ({ e with line := rest }, .again)
    | (_, none) => (e, .nextLine false)
  | .print => (e.printLine, goOn)
  | .printLine => (e.print (cutLine e.mark e.line).1 true, goOn)
  | .printNumber => (e.printText ((toString e.number).toList ++ ['\n']), goOn)
  | .printVisibly => (e.printText (visibleText e.line ++ ['\n']), goOn)
  | .printName => (e.print e.name.toList true, goOn)
  | .next =>
    if e.isAtLast then (e, .stop true)
    else
      let e := if setup.quiet then e else e.printLine
      match e.printAppended.takeLine? with
      | some (line, e) => ({ e with line }, goOn)
      | none => (e, .stop false)
  | .appendNext =>
    match e.printAppended.takeLine? with
    | some (line, after) => ({ after with line := e.line ++ e.mark :: line }, goOn)
    | none => (e, .stop true)
  | .hold => ({ e with held := e.line }, goOn)
  | .holdMore => ({ e with held := e.held ++ e.mark :: e.line }, goOn)
  | .recall => ({ e with line := e.held }, goOn)
  | .recallMore => ({ e with line := e.line ++ e.mark :: e.held }, goOn)
  | .exchange => ({ e with line := e.held, held := e.line }, goOn)
  | .clear => ({ e with line := [] }, goOn)
  | .readFile name => ({ e with appended := e.appended ++ [setup.fileText name] }, goOn)
  | .writeFile name => (e.save name e.line, goOn)
  | .writeLine name => (e.save name (cutLine e.mark e.line).1, goOn)
  | .quit prints status => ({ e with status := some status }, .stop prints)

/-- Runs an editor from a command on. `fuel` bounds the number of commands. -/
def run (setup : Setup) : Nat → Nat → Editor → Editor
  | 0, _, e => e
  | fuel + 1, index, e =>
    match setup.commands[index]? with
    | none =>
      let e := (if setup.quiet then e else e.printLine).printAppended
      match e.takeLine? with
      | some (line, e) => run setup fuel 0 { e with line }
      | none => e
    | some command =>
      let (selected, e) := e.isSelected index command.selector
      if e.fault.isSome then e
      else if !selected then
        match command.action with
        | .block => run setup fuel (setup.afterBlock setup.commands.size (index + 1) 0) e
        | _ => run setup fuel (index + 1) e
      else
        match e.act setup index command with
        | (e, .command next) => if e.fault.isSome then e else run setup fuel next e
        | (e, .again) => run setup fuel 0 e.printAppended
        | (e, .stop prints) =>
          (if prints && !setup.quiet then e.printLine else e).printAppended
        | (e, .nextLine _) =>
          match e.printAppended.takeLine? with
          | some (line, e) => run setup fuel 0 { e with line }
          | none => e.printAppended

/-- How many commands an editor runs before it is cut off. -/
def stepLimit : Nat := 1000000

/-- The editor before it has read anything. -/
def initial (name : String) (commands : Array EditorCommand) (mark : Char)
    (lines : List (List Char)) : Editor :=
  let isOpen (entry : EditorCommand × Nat) : Bool :=
    match entry.1.selector.first, entry.1.selector.last with
    | some (.line 0), some (.address (.matching _)) => true
    | _, _ => false
  { line := [], isBroken := true, held := [], number := 0, name, mark, rest := lines
    printed := [], lacksBreak := false, appended := []
    entered := ((commands.toList.zipIdx).filter isOpen).map fun entry => (entry.2, none)
    replaced := false, lastRegex := none, written := [], status := none, fault := none }

/-- The editor after it has read lines from its start. -/
def runAll (setup : Setup) (e : Editor) : Editor :=
  match e.takeLine? with
  | some (line, e) => run setup stepLimit 0 { e with line }
  | none => e

/-- What an editor has printed. -/
def text (e : Editor) : List Char := e.printed.reverse.flatten

end Editor

/-- Where in a script, which may have been given in parts, something is wrong. -/
def editorPlace (parts : List String) (position : Nat) : Nat × Nat :=
  match parts with
  | [] | [_] => (1, position)
  | part :: rest =>
    if position ≤ part.length then (1, position)
    else
      let (number, position) := editorPlace rest (position - part.length - 1)
      (number + 1, position)

/-- The options of the stream editor. -/
def editorOptions : OptionStyle :=
  ⟨['n', 'E', 'r', 's', 'z', 'u', '1', '2'], ['e', 'f', 'l'],
    [("quiet", 'n'), ("silent", 'n'), ("regexp-extended", 'E'), ("separate", 's'),
      ("null-data", 'z'), ("unbuffered", 'u'), ("expression", 'e'), ("file", 'f'), ("posix", '1'),
      ("debug", '2'), ("in-place", 'i')], true⟩

/-- The ending for the files as they were, if files are edited in place, and the other arguments. -/
def cutInPlace : List String → Option String × List String
  | [] => (none, [])
  | "--" :: rest => (none, "--" :: rest)
  | argument :: rest =>
    let (found, more) := cutInPlace rest
    match argument.toList with
    | '-' :: '-' :: name =>
      let name := String.ofList name
      if name = "in-place" then (some "", more)
      else if name.startsWith "in-place=" then
        (some (String.ofList (name.toList.drop 9)), more)
      else (found, argument :: more)
    | '-' :: letters =>
      let before := letters.takeWhile (· ≠ 'i')
      if before.length = letters.length ∨ before.any (· ∈ ['e', 'f', 'l']) then
        (found, argument :: more)
      else
        let ending := String.ofList (letters.drop (before.length + 1))
        (some ending, if before.isEmpty then more else String.ofList ('-' :: before) :: more)
    | _ => (found, argument :: more)

/-- The script of options and operands, in parts, and the names of the files. -/
def editorScript (s : State) (options : Arguments) :
    Except String (List String × List String) := do
  if options.has 'e' ∨ options.has 'f' then
    let given := options.options.filter fun option => option.1 = 'e' || option.1 = 'f'
    let parts ← given.mapM fun (letter, value) =>
      if letter = 'e' then .ok value
      else
        match s.readSource value with
        | (.ok text, _) =>
          .ok (String.ofList (if text.getLast? = some '\n' then text.dropLast else text))
        | (.error failure, _) =>
          .error ("couldn't open file " ++ value ++ ": " ++ failure.reason)
    return (parts, options.operands)
  else
    match options.operands with
    | [] => throw ""
    | script :: names => return ([script], names)

/-- The commands of a script, or the message about what is wrong with it. -/
def editorCommands (options : Arguments) (parts : List String) :
    Except String (List EditorCommand) :=
  let text := ("\n".intercalate parts).toList
  let extended := options.has 'E' || options.has 'r'
  match (EditorReading.commands extended (text.length + 2) 0).run text with
  | .ok (commands, _) => .ok commands
  | .error (message, left) =>
    let isUnclosed := message.startsWith "unmatched"
    let (number, position) := editorPlace parts (text.length - left)
    match if options.has 'e' then none else options.value? 'f' with
    | some file =>
      let line := ((parts.headD "").toList.take position).count '\n' + 1
      .error ("file " ++ file ++ " line " ++ toString line ++ ": " ++ message)
    | none =>
      .error ("-e expression #" ++ toString number ++ ", char " ++
        toString (if isUnclosed then 0 else position) ++ ": " ++ message)

/-- The label that a command jumps to and that there is not. -/
def missingLabel? (setup : Editor.Setup) : Option String :=
  setup.commands.toList.findSome? fun command =>
    match command.action with
    | .jump _ name => if (setup.place? name).isNone then some name else none
    | _ => none

/-- The names of the files that commands write. -/
def writtenNames (commands : List EditorCommand) : List String :=
  (commands.filterMap fun command =>
    match command.action with
    | .writeFile name | .writeLine name => some name
    | .substitute substitution => substitution.file
    | _ => none).filter (· ≠ "/dev/stdout")

/-- The lines of a text with the character that ends them, which the last one may lack. -/
def markedLines (mark : Char) (text : List Char) : List (List Char) :=
  let pieces := (text.splitOn mark).reverse
  let last := pieces.headD []
  (pieces.tail.map (· ++ [mark])).reverse ++ (if last.isEmpty then [] else [last])

/-- The editor of a source. -/
def editorOf (setup : Editor.Setup) (options : Arguments) (source : Source) : Editor :=
  let mark := if options.has 'z' then '\x00' else '\n'
  (Editor.initial source.name setup.commands mark (markedLines mark source.text)).runAll setup

/-- The state with the files that an editor has written. -/
def saveWritten (names : List String) (e : Editor) (s : State) : State :=
  names.eraseDups.foldl (fun s name =>
    match s.save name ((e.written.lookup name).getD []) with
    | .ok s => s
    | .error _ => s) s

/-- Edits files in place. -/
def editInPlace (setup : Editor.Setup) (ending : String) (options : Arguments)
    (names : List String) (s : State) : State :=
  names.foldl (fun s name =>
    match s.readSource name with
    | (.error failure, s) =>
      if failure = .isADirectory then
        s.fault 4 ("couldn't edit " ++ name ++ ": not a regular file")
      else s.fault 2 ("can't read " ++ name ++ ": " ++ failure.reason)
    | (.ok text, s) =>
      let e := editorOf setup options ⟨name, text⟩
      let backup :=
        if ending.isEmpty then .ok s
        else s.save (if '*' ∈ ending.toList then ending.replace "*" name else name ++ ending) text
      match backup.bind (State.save name e.text) with
      | .ok s => saveWritten (writtenNames setup.commands.toList) e s
      | .error failure => s.fault 4 ("couldn't open file " ++ name ++ ": " ++ failure.reason))
    (s.finish 0)

/-- Edits files or the input. -/
def sed (s : State) (arguments : List String) : State :=
  let (inPlace, arguments) := cutInPlace arguments
  let usage (s : State) : State :=
    (s.complain ("Usage: " ++ s.name ++
      " [OPTION]... \x7bscript-only-if-no-other-script\x7d [input-file]...")).finish 1
  match Arguments.read editorOptions arguments with
  | .error message => usage (s.complain (s.name ++ ": " ++ message))
  | .ok options =>
    match editorScript s options with
    | .error message => if message.isEmpty then usage s else s.fault 4 message
    | .ok (parts, names) =>
      match editorCommands options parts with
      | .error message => s.fault 1 message
      | .ok commands =>
        let fileText (name : String) : List Char :=
          match (s.readSource name).1 with
          | .ok text => text
          | .error _ => []
        let setup : Editor.Setup :=
          { commands := commands.toArray
            quiet := options.has 'n' || (parts.headD "").startsWith "#n\n" || parts = ["#n"]
            fileText }
        match missingLabel? setup with
        | some name => s.fault 4 ("can't find label for jump to `" ++ name ++ "'")
        | none =>
          match inPlace with
          | some ending => editInPlace setup ending options names s
          | none =>
            let (sources, good, s) := s.readSources
              (fun name failure =>
                if failure = .isADirectory then "read error on " ++ name ++ ": Is a directory"
                else "can't read " ++ name ++ ": " ++ failure.reason) names
            let inputs := if options.has 's' then sources
              else [⟨(sources.head?.map Source.name).getD "-", sources.flatMap Source.text⟩]
            let (s, status) := inputs.foldl (fun (s, status) source =>
              let e := editorOf setup options source
              let s := saveWritten (writtenNames commands) e (s.print e.text)
              match e.fault with
              | some message =>
                (s.complain (s.name ++ ": -e expression #1, char 0: " ++ message), some 1)
              | none => (s, status.or e.status)) (s, none)
            let isUnreadable (name : String) : Bool :=
              (s.files.find (pathOf name)).toOption = some .directory
            s.finish (status.getD (if good then 0 else if names.any isUnreadable then 4 else 2))

end PluginBuild.Shell
