import PluginBuild.Text.Cut
/-!
# Options

The options that a command takes, and how those given to it are read. Arguments are read one after
the other: the first fault counts, and a request for help or for the version ends the reading.
-/

namespace PluginBuild.CommandLine

/-- The values that an option takes. -/
structure ValueSpec where
  /-- What a value is called. -/
  label : String
  accepts : String → Bool

/-- An option of a command. -/
structure OptionSpec where
  name : String
  /-- A letter that stands for the option. -/
  letter : Option Char
  /-- The values of the option, which is a switch where it takes none. -/
  value : Option ValueSpec
  /-- Whether the option may be given more than once. -/
  repeats : Bool
  description : String

/-- The options given so far in their order, with their values. Switches have an empty one. -/
abbrev Given := List (String × String)

/-- Why the reading of options ends before the arguments do. -/
inductive Stop
  | refused
  | help
  | version
deriving DecidableEq

namespace Given

/-- The values of an option. -/
def values (given : Given) (name : String) : List String :=
  (given.filter (·.1 = name)).map (·.2)

/-- The value of an option. -/
def value? (given : Given) (name : String) : Option String := (given.values name).head?

/-- Whether an option is given. -/
def has (given : Given) (name : String) : Bool := (given.value? name).isSome

end Given

/-- An argument as options are read from it. -/
inductive Argument
  /-- The name of an option, with its value where the argument holds it. -/
  | long (name : String) (value : Option String)
  | letters (letters : List Char)
  | endOfOptions
  /-- No option. -/
  | word
deriving DecidableEq

/-- What an argument is. A single dash is no option. -/
def Argument.ofText (s : String) : Argument :=
  match s.toList with
  | '-' :: '-' :: [] => endOfOptions
  | '-' :: '-' :: rest =>
    match Text.cutFirst? ['='] rest with
    | some (name, value) => long (String.ofList name) (some (String.ofList value))
    | none => long (String.ofList rest) none
  | '-' :: c :: rest => letters (c :: rest)
  | _ => word

namespace OptionSpec

/-- The options given with one more, unless its value is none of the option or the option has been
given before. -/
def add (spec : OptionSpec) (value : String) (given : Given) : Except Stop Given :=
  if !spec.value.all (·.accepts value) || (!spec.repeats && given.has spec.name) then
    .error .refused
  else .ok (given ++ [(spec.name, value)])

/-- The options that the letters of one argument give. -/
def readLetters (specs : List OptionSpec) (given : Given) : List Char → Except Stop Given
  | [] => .ok given
  | c :: rest =>
    if c = 'h' then .error .help
    else if c = 'V' then .error .version
    else
      match specs.find? (·.letter = some c) with
      | none => .error .refused
      | some spec => do readLetters specs (← spec.add "" given) rest

/-- The options that arguments give, and the arguments from the first that is no option. After the
end of the options no argument is taken. -/
def read (specs : List OptionSpec) (given : Given) :
    List String → Except Stop (Given × List String)
  | [] => .ok (given, [])
  | argument :: rest =>
    match Argument.ofText argument with
    | .word => .ok (given, argument :: rest)
    | .endOfOptions => if rest.isEmpty then .ok (given, []) else .error .refused
    | .letters letters => do read specs (← readLetters specs given letters) rest
    | .long name value =>
      match specs.find? (·.name = name), value with
      | none, none =>
        .error (if name = "help" then .help else if name = "version" then .version else .refused)
      | none, some _ => .error .refused
      | some spec, value =>
        match spec.value, value with
        | none, none => do read specs (← spec.add "" given) rest
        | none, some _ => .error .refused
        | some _, some value => do read specs (← spec.add value given) rest
        | some _, none =>
          match rest with
          | [] => .error .refused
          | value :: rest =>
            if Argument.ofText value = .word then do read specs (← spec.add value given) rest
            else .error .refused

end OptionSpec

end PluginBuild.CommandLine
