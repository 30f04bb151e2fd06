/-!
# Arguments of programs

The options and operands among the arguments of a program. Options have letters, of which several
may follow one dash, and some have long names as well.
-/

namespace PluginBuild.Shell

/-- The options of a program. -/
structure OptionStyle where
  /-- The letters of options without a value. -/
  letters : List Char
  /-- The letters of options with a value. -/
  valued : List Char
  /-- The long names of options. -/
  names : List (String × Char)
  /-- Whether options may follow operands. -/
  mixed : Bool

/-- The options, with their values, and the operands. -/
structure Arguments where
  options : List (Char × String)
  operands : List String

namespace Arguments

/-- Whether there is an option of a letter. -/
def has (arguments : Arguments) (letter : Char) : Bool := arguments.options.any (·.1 = letter)

/-- The value of the last option of a letter. -/
def value? (arguments : Arguments) (letter : Char) : Option String :=
  (arguments.options.reverse).lookup letter

/-- The values of all options of a letter. -/
def values (arguments : Arguments) (letter : Char) : List String :=
  (arguments.options.filter (·.1 = letter)).map (·.2)

/-- The last of some letters that is an option. -/
def last? (arguments : Arguments) (letters : List Char) : Option Char :=
  ((arguments.options.map (·.1)).filter (· ∈ letters)).getLast?

/-- The options of letters, and the letter of an option whose value is the next argument, or else
the letter of which there is no option. -/
def ofLetters (style : OptionStyle) :
    List Char → Except Char (List (Char × String) × Option Char)
  | [] => .ok ([], none)
  | c :: rest =>
    if c ∈ style.valued then
      .ok (if rest.isEmpty then ([], some c) else ([(c, String.ofList rest)], none))
    else if c ∈ style.letters then do
      let (options, next) ← ofLetters style rest
      return ((c, "") :: options, next)
    else .error c

/-- The option of a long name, and its letter if the next argument is its value. -/
def ofName (style : OptionStyle) (text : List Char) :
    Except String (List (Char × String) × Option Char) :=
  let name := String.ofList (text.takeWhile (· ≠ '='))
  let value := text.drop (name.length + 1)
  match (style.names.find? (·.1 = name)).or (style.names.find? (·.1.startsWith name)) with
  | none => .error ("unrecognized option '--" ++ name ++ "'")
  | some (full, letter) =>
    if name.length < text.length then
      if letter ∈ style.valued then .ok ([(letter, String.ofList value)], none)
      else .error ("option '--" ++ full ++ "' doesn't allow an argument")
    else if letter ∈ style.valued then .ok ([], some letter)
    else .ok ([(letter, "")], none)

/-- The options and operands of arguments. -/
def read (style : OptionStyle) : List String → Except String Arguments
  | [] => .ok ⟨[], []⟩
  | argument :: rest => do
    let found ← match argument.toList with
      | ['-', '-'] => return ⟨[], rest⟩
      | '-' :: '-' :: name => (ofName style name).map some
      | '-' :: c :: letters =>
        match ofLetters style (c :: letters) with
        | .ok found => pure (some found)
        | .error letter => throw ("invalid option -- '" ++ String.ofList [letter] ++ "'")
      | _ => pure none
    match found with
    | none =>
      if style.mixed then
        let more ← read style rest
        return { more with operands := argument :: more.operands }
      else return ⟨[], argument :: rest⟩
    | some (options, none) =>
      let more ← read style rest
      return { more with options := options ++ more.options }
    | some (options, some letter) =>
      match rest with
      | [] => throw ("option requires an argument -- '" ++ String.ofList [letter] ++ "'")
      | value :: rest =>
        let more ← read style rest
        return { more with options := options ++ (letter, value) :: more.options }

/-- The options and operands of the arguments of a utility that belongs to the shell. -/
def readInShell (letters valued : List Char) : List String → Except String Arguments
  | [] => .ok ⟨[], []⟩
  | argument :: rest =>
    match argument.toList with
    | ['-', '-'] => .ok ⟨[], rest⟩
    | '-' :: c :: more =>
      match ofLetters ⟨letters, valued, [], false⟩ (c :: more), rest with
      | .error letter, _ => .error ("Illegal option -" ++ String.ofList [letter])
      | .ok (options, none), rest => do
        let more ← readInShell letters valued rest
        return { more with options := options ++ more.options }
      | .ok (_, some letter), [] =>
        .error ("No arg for -" ++ String.ofList [letter] ++ " option")
      | .ok (options, some letter), value :: rest => do
        let more ← readInShell letters valued rest
        return { more with options := options ++ (letter, value) :: more.options }
    | _ => .ok ⟨[], argument :: rest⟩

end Arguments

end PluginBuild.Shell
