import PluginBuild.Shell.Traps
/-!
# The course of a shell

The utilities of shells that change how a script goes on, with which arguments and in which
directory.
-/

namespace PluginBuild.Shell

/-- Runs a utility with the number that its first argument is, if there is one. -/
def State.withNumber (usual : Nat) (run : Nat → State → State) (s : State)
    (arguments : List String) : State :=
  match arguments with
  | [] => run usual s
  | text :: _ =>
    match wholeNumber? text with
    | some number => run number s
    | none => s.raise ("Illegal number: " ++ text)

/-- Ends loops in which the shell is. -/
def endLoops (flow : Nat → Flow) (s : State) (arguments : List String) : State :=
  s.withNumber 1 (fun count s =>
    if count = 0 then s.raise "Illegal number: 0"
    else if s.loops = 0 then s.finish 0
    else { s.finish 0 with flow := flow (min count s.loops) }) arguments

/-- Ends a function with an exit code. -/
def endFunction (s : State) (arguments : List String) : State :=
  s.withNumber s.status (fun status s => { s.finish status with flow := .leaveFunction }) arguments

/-- Ends the shell with an exit code. -/
def endShellWith (s : State) (arguments : List String) : State :=
  s.withNumber (s.kept.getD s.status) (fun status s => { s.finish status with flow := .ended })
    arguments

/-- Drops arguments. -/
def shift (s : State) (arguments : List String) : State :=
  s.withNumber 1 (fun count s =>
    if count ≤ s.arguments.length then (s.setArguments (s.arguments.drop count)).finish 0
    else s.raise "can't shift that many") arguments

/-- Where an argument with options goes on. -/
structure OptionPlace where
  /-- The letters that have not been read. -/
  letters : List Char
  /-- How many letters of the argument have been read, with the dash. -/
  read : Nat
  /-- The arguments that follow. -/
  rest : List String

/-- The place of the next option among arguments, unless there is none. -/
def OptionPlace.find? (arguments : List String) (place : Nat × Option Nat) :
    Option OptionPlace :=
  let rest := arguments.drop (place.1 - 1)
  let before := if place.1 ≤ 1 then none else arguments[place.1 - 2]?
  let current : Option OptionPlace := do
    let argument ← before
    let read ← place.2
    let letters := argument.toList.drop read
    if letters.isEmpty then none else some ⟨letters, read, rest⟩
  current.or <|
    match rest with
    | [] => none
    | argument :: rest =>
      match argument.toList with
      | '-' :: c :: letters => some ⟨c :: letters, 1, rest⟩
      | _ => none

/-- The text after a letter among the options that are known. -/
def optionText? (letter : Char) : List Char → Option (List Char)
  | [] => none
  | c :: ':' :: rest => if c = letter then some (':' :: rest) else optionText? letter rest
  | c :: rest => if c = letter then some rest else optionText? letter rest

/-- Reads the next option into a variable. `known` holds the letters of options, with a colon after
those that have a value. -/
def nextOption (known name : String) (arguments : List String) (s : State) : State :=
  let count := arguments.length
  let place := if s.place.1 > count + 1 then (1, none) else s.place
  let done (status : Nat) (letter : Char) (rest : List String) (read : Option Nat) (s : State) :
      State :=
    let next := count - rest.length + 1
    let s := s.assign "OPTIND" (toString next)
    let s := if s.flow ≠ .goOn then s
      else if isName name.toList then s.assign name (String.ofList [letter])
      else s.raise (name ++ ": bad variable name")
    if s.flow = .goOn then { s.finish status with place := (next, read) } else s
  let isSilent := known.startsWith ":"
  match OptionPlace.find? arguments place with
  | none => done 1 '?' (arguments.drop (place.1 - 1)) none s
  | some ⟨letters, read, rest⟩ =>
    match letters with
    | [] => done 1 '?' rest none s
    | letter :: more =>
      if letter = '-' ∧ more.isEmpty ∧ read = 1 then done 1 '?' rest none s
      else
        let letterText := String.ofList [letter]
        match optionText? letter known.toList with
        | none =>
          let s :=
            if isSilent then s.assign "OPTARG" letterText
            else (s.complain ("Illegal option -" ++ letterText)).unassign "OPTARG"
          done 0 '?' rest (some (read + 1)) s
        | some (':' :: _) =>
          match more, rest with
          | _ :: _, _ => done 0 letter rest none (s.assign "OPTARG" (String.ofList more))
          | [], value :: rest => done 0 letter rest none (s.assign "OPTARG" value)
          | [], [] =>
            if isSilent then done 0 ':' [] none (s.assign "OPTARG" letterText)
            else done 0 '?' [] none
              ((s.complain ("No arg for -" ++ letterText ++ " option")).unassign "OPTARG")
        | some _ => done 0 letter rest (some (read + 1)) (s.assign "OPTARG" "")

/-- Reads the next option among arguments into a variable. -/
def getOptions : State → List String → State :=
  State.withOptions [] [] fun arguments s =>
    match arguments.operands with
    | [known, name] => nextOption known name s.arguments s
    | known :: name :: arguments => nextOption known name arguments s
    | _ => s.raise "Usage: getopts optstring var [arg...]"

/-- The path of a directory of a name in the directories that are searched for it, unless it is
below the working directory. -/
def State.searchedDirectory? (s : State) (name : String) : Option String :=
  let first := name.toList.takeWhile (· ≠ '/')
  match s.value? "CDPATH" with
  | none => none
  | some search =>
    if first = [] ∨ first = ['.'] ∨ first = ['.', '.'] then none
    else
      let paths := (splitAt ':' search.toList).map fun directory =>
        if directory.isEmpty then name else String.ofList directory ++ "/" ++ name
      let path? := paths.find? fun path => (s.files.find (pathOf path)).toOption = some .directory
      path?.filter (· ≠ name)

/-- Changes the working directory. -/
def changeDirectory : State → List String → State :=
  State.withOptions ['L', 'P'] [] fun arguments s =>
    let target := arguments.operands.head?
    let directory :=
      match target with
      | none => (s.value? "HOME").getD ""
      | some "-" => (s.value? "OLDPWD").getD ""
      | some directory => directory
    let found := s.searchedDirectory? directory
    let path := pathOf (found.getD (if directory.isEmpty then "." else directory))
    match s.files.find path, s.files.locate path with
    | .ok .directory, .ok location =>
      let put (s : State) (entry : String × String) : State :=
        let s := s.put entry.1 entry.2
        { s with exported := entry.1 :: s.exported.filter (· ≠ entry.1) }
      let s := put s ("OLDPWD", pathText s.files.workingDirectory)
      let s := put s ("PWD", pathText location)
      let s := { s.finish 0 with files := { s.files with workingDirectory := location } }
      if target = some "-" ∨ found.isSome then s.print ((pathText location).toList ++ ['\n'])
      else s
    | _, _ => s.raise ("can't cd to " ++ directory)

/-- The permissions that a class of users gets, in letters. -/
def permissionLetters (bits : Nat) : String :=
  (if bits / 4 % 2 = 1 then "r" else "") ++ (if bits / 2 % 2 = 1 then "w" else "") ++
    (if bits % 2 = 1 then "x" else "")

/-- The permissions after the clauses of a mode. -/
def changedPermissions (before : Nat) (clauses : List (List Char)) : Option Nat :=
  clauses.foldlM (fun permissions clause =>
    let isClass (c : Char) : Bool := c ∈ ['u', 'g', 'o', 'a']
    let classes := clause.takeWhile isClass
    let applies (letter : Char) : Bool := classes.isEmpty || letter ∈ classes || 'a' ∈ classes
    let shifts := [('u', 6), ('g', 3), ('o', 0)].filter (applies ·.1)
    match clause.dropWhile isClass with
    | operator :: letters =>
      if operator ∉ ['+', '-', '='] ∨ letters.any (· ∉ ['r', 'w', 'x', 'X', 's', 't']) then none
      else
        let bits := ['r', 'w', 'x'].foldl (fun bits c =>
          bits * 2 + if c ∈ letters ∨ (c = 'x' ∧ 'X' ∈ letters) then 1 else 0) 0
        some (shifts.foldl (fun permissions (_, shift) =>
          let old := permissions >>> shift % 8
          let new := if operator = '+' then old ||| bits
            else if operator = '-' then old - (old &&& bits) else bits
          permissions - (old <<< shift) + (new <<< shift)) permissions)
    | [] => none) before

/-- Prints or changes the permissions that new files do not get. -/
def mask : State → List String → State :=
  State.withOptions ['S'] [] fun arguments s =>
    let allowed := 511 - s.mask
    match arguments.operands with
    | [] =>
      let ofClass (name : String) (shift : Nat) : String :=
        name ++ "=" ++ permissionLetters (allowed >>> shift % 8)
      let text := if arguments.has 'S'
        then ofClass "u" 6 ++ "," ++ ofClass "g" 3 ++ "," ++ ofClass "o" 0
        else String.ofList ((Nat.toDigits 8 s.mask).leftpad 4 '0')
      (s.print (text.toList ++ ['\n'])).finish 0
    | mode :: _ =>
      if mode.toList.head?.any Char.isDigit then
        match Text.digits? 8 mode.toList with
        | some mask => { s.finish 0 with mask := mask % 512 }
        | none => s.raise ("Illegal number: " ++ mode)
      else
        match changedPermissions allowed (splitAt ',' mode.toList) with
        | some permissions => { s.finish 0 with mask := 511 - permissions }
        | none => s.raise ("Illegal mode: " ++ mode)

/-- Prints limits, of which there are none but that there are no memory images. -/
def limits : State → List String → State :=
  State.withOptions ['H', 'S', 'a', 't', 'f', 'd', 's', 'c', 'm', 'l', 'p', 'n', 'v', 'w', 'r'] []
    fun arguments s =>
      if arguments.operands.isEmpty then
        (s.print (if arguments.has 'c' then "0\n".toList else "unlimited\n".toList)).finish 0
      else s.finish 0

/-- Prints how long the shell has been at work. -/
def times (s : State) : State :=
  let line := "0m0.000000s 0m0.000000s\n"
  (s.print (line ++ line).toList).finish 0

end PluginBuild.Shell
