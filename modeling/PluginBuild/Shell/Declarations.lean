import PluginBuild.Shell.Arguments
import PluginBuild.Shell.State
/-!
# Declarations

The utilities of shells that declare variables, options and aliases, and those that list them in a
form that a shell can read.
-/

namespace PluginBuild.Shell

/-- A text in quotes, which a shell reads as the text. -/
def inQuotes (text : List Char) : List Char :=
  match text.splitBy fun a b => (a = '\'') = (b = '\'') with
  | [] => ['\'', '\'']
  | runs =>
    let isMark (run : List Char) : Bool := run.head? = some '\''
    let quoted := runs.flatMap fun run =>
      if isMark run then '"' :: run ++ ['"'] else '\'' :: run ++ ['\'']
    if runs.head?.any isMark then '\'' :: '\'' :: quoted else quoted

namespace State

/-- The names of all variables in order. -/
def sortedNames (s : State) : List String :=
  ((s.values.map (·.1) ++ s.exported ++ s.fixed).mergeSort fun a b => a ≤ b).eraseDups

/-- Prints the declarations of variables, each after the same start. -/
def printDeclarations (start : String) (names : List String) (s : State) : State :=
  let line (name : String) : List Char :=
    match s.values.lookup name with
    | some value => (start ++ name).toList ++ '=' :: inQuotes value.toList ++ ['\n']
    | none => (start ++ name).toList ++ ['\n']
  (s.print (names.flatMap line)).finish 0

/-- Runs a utility with the options of letters and the operands of its arguments. -/
def withOptions (letters valued : List Char) (run : Arguments → State → State) (s : State)
    (arguments : List String) : State :=
  match Arguments.readInShell letters valued arguments with
  | .ok arguments => run arguments s
  | .error message => s.raise message

/-- Does something for each of some names, as long as that works. -/
def forAll (step : State → String → State) (names : List String) (s : State) : State :=
  names.foldl (fun s name => if s.flow = .goOn then step s name else s) (s.finish 0)

/-- The name and the value that a declaration gives. -/
def declaration (text : String) : String × Option String :=
  let name := text.toList.takeWhile (· ≠ '=')
  (String.ofList name,
    if name.length < text.length then some (String.ofList (text.toList.drop (name.length + 1)))
    else none)

/-- Declares a variable and marks it. -/
def declare (mark : String → State → State) (s : State) (text : String) : State :=
  let (name, value) := declaration text
  if !isName name.toList then s.raise (name ++ ": bad variable name")
  else
    let s := value.elim s fun value => s.assign name value
    if s.flow = .goOn then mark name s else s

end State

/-- Passes variables on to programs. -/
def exportNames : State → List String → State :=
  State.withOptions ['p'] [] fun arguments s =>
    if arguments.has 'p' ∨ arguments.operands.isEmpty then
      s.printDeclarations "export " (s.sortedNames.filter (· ∈ s.exported))
    else
      s.forAll (State.declare fun name s =>
        { s with exported := name :: s.exported.filter (· ≠ name) }) arguments.operands

/-- Makes variables stay as they are. -/
def fixNames : State → List String → State :=
  State.withOptions ['p'] [] fun arguments s =>
    if arguments.has 'p' ∨ arguments.operands.isEmpty then
      s.printDeclarations "readonly " (s.sortedNames.filter (· ∈ s.fixed))
    else
      s.forAll (State.declare fun name s =>
        { s with fixed := name :: s.fixed.filter (· ≠ name) }) arguments.operands

/-- Removes variables or functions. -/
def unset : State → List String → State :=
  State.withOptions ['v', 'f'] [] fun arguments s =>
    s.forAll (fun s name =>
      if arguments.last? ['v', 'f'] = some 'f' then
        { s with functions := s.functions.filter (·.1 ≠ name) }
      else if isName name.toList then s.unassign name
      else s.raise (name ++ ": bad variable name")) arguments.operands

/-- Gives variables, or the options, to a function for itself. -/
def localize (s : State) (arguments : List String) : State :=
  match s.locals with
  | none => s.raise "not in a function"
  | some _ =>
    s.forAll (fun s text =>
      let keep (shadowed : Shadowed) : State :=
        { s with locals := s.locals.map (shadowed :: ·) }
      if text = "-" then keep (.ofOptions s.options)
      else
        let (name, value) := State.declaration text
        if !isName name.toList then s.raise (name ++ ": bad variable name")
        else
          let s := keep (s.shadow name)
          value.elim s fun value => s.assign name value) arguments

/-- Prints the options with their long names. With `asCommands` they can be set again so. -/
def printOptions (asCommands : Bool) (s : State) : State :=
  let line (entry : String × Char) : String :=
    let isOn := s.options.has entry.2
    if asCommands then "set " ++ (if isOn then "-o " else "+o ") ++ entry.1 ++ "\n"
    else String.ofList (entry.1.toList.rightpad 16 ' ') ++ (if isOn then "on\n" else "off\n")
  s.print (((if asCommands then "" else "Current option settings\n") ++
    String.join (Options.names.map line)).toList)

/-- A change of an option, by its letter, or with the letter `o` by its long name. -/
structure OptionChange where
  on : Bool
  letter : Char
  name : Option String

namespace OptionChange

/-- The changes that arguments ask for, and the arguments that follow them, if there is something to
set them to. For each of some letters before the next argument is a long name. -/
def read : List Bool → List String → List OptionChange × Option (List String)
  | named, [] => (named.map (⟨·, 'o', none⟩), none)
  | on :: named, name :: rest =>
    let (changes, arguments) := read named rest
    (⟨on, 'o', some name⟩ :: changes, arguments)
  | [], first :: rest =>
    match first.toList with
    | ['-'] => ([⟨false, 'x', none⟩], if rest.isEmpty then none else some rest)
    | ['-', '-'] => ([], some rest)
    | sign :: letters =>
      if sign = '-' ∨ sign = '+' then
        let on := sign = '-'
        let (changes, arguments) := read ((letters.filter (· = 'o')).map fun _ => on) rest
        ((letters.filter (· ≠ 'o')).map (⟨on, ·, none⟩) ++ changes, arguments)
      else ([], some (first :: rest))
    | [] => ([], some (first :: rest))

/-- The state after a change. -/
def apply (s : State) (change : OptionChange) : State :=
  let set (letter : Char) (text : String) : State :=
    match s.options.set? change.on letter with
    | some options => { s with options }
    | none => s.raise ("Illegal option " ++ text)
  match change.letter, change.name with
  | 'o', none => printOptions (!change.on) s
  | 'o', some name =>
    match Options.names.lookup name with
    | some letter => if letter = 'd' then s else set letter ""
    | none => s.raise ("Illegal option -o " ++ name)
  | letter, _ => set letter ("-" ++ String.ofList [letter])

/-- The state after changes, up to one that cannot be made. -/
def applyAll (changes : List OptionChange) (s : State) : State :=
  changes.foldl (fun s change => if s.flow = .goOn then change.apply s else s) s

end OptionChange

/-- The state with other arguments. -/
def State.setArguments (arguments : List String) (s : State) : State :=
  { s with arguments, place := (1, none) }

/-- Sets the options and the arguments of the shell, or prints all variables. -/
def setAll (s : State) (arguments : List String) : State :=
  if arguments.isEmpty then
    s.printDeclarations "" (s.sortedNames.filter fun name => (s.values.lookup name).isSome)
  else
    let (changes, arguments) := OptionChange.read [] arguments
    let s := OptionChange.applyAll changes (s.finish 0)
    if s.flow = .goOn then arguments.elim s s.setArguments else s

/-- Prints the text that an alias stands for. -/
def printAlias (s : State) (entry : String × String) : State :=
  s.print (entry.1.toList ++ '=' :: inQuotes entry.2.toList ++ ['\n'])

/-- Declares aliases or prints them. -/
def aliasNames (s : State) (arguments : List String) : State :=
  if arguments.isEmpty then s.aliases.reverse.foldl printAlias (s.finish 0)
  else
    arguments.foldl (fun s argument =>
      let text := argument.toList
      let name := String.ofList (text.take 1 ++ (text.drop 1).takeWhile (· ≠ '='))
      let others := s.aliases.filter (·.1 ≠ name)
      if name.length < argument.length then
        { s with
          aliases := (name, String.ofList (text.drop (name.length + 1))) :: others }
      else
        match s.aliases.lookup name with
        | some text => printAlias s (name, text)
        | none => (s.complain ("alias: " ++ name ++ " not found")).finish 1) (s.finish 0)

/-- Removes aliases. -/
def unalias : State → List String → State :=
  State.withOptions ['a'] [] fun arguments s =>
    if arguments.has 'a' then { s.finish 0 with aliases := [] }
    else
      arguments.operands.foldl (fun s name =>
        if (s.aliases.lookup name).isSome then
          { s with aliases := s.aliases.filter (·.1 ≠ name) }
        else (s.complain ("unalias: " ++ name ++ " not found")).finish 1) (s.finish 0)

end PluginBuild.Shell
