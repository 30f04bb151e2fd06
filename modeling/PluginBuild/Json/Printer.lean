import PluginBuild.Json.Value
/-!
# Printing JSON

The text of a value on one line, and its text with every field and item on a line of its own, two
blanks further in for every array and object around it.
-/

namespace PluginBuild.Json

/-- A digit of a control character's code. -/
def hexDigit (n : Nat) : Char := Char.ofNat (if n < 10 then '0'.toNat + n else 'a'.toNat + n - 10)

/-- A character as it is written inside a string. -/
def escape (c : Char) : List Char :=
  if c = '"' then ['\\', '"']
  else if c = '\\' then ['\\', '\\']
  else if c = '\x08' then ['\\', 'b']
  else if c = '\x0c' then ['\\', 'f']
  else if c = '\n' then ['\\', 'n']
  else if c = '\r' then ['\\', 'r']
  else if c = '\t' then ['\\', 't']
  else if c.toNat < 0x20 then
    ['\\', 'u', '0', '0', hexDigit (c.toNat / 16), hexDigit (c.toNat % 16)]
  else [c]

/-- A string with its quotes. -/
def quote (s : String) : String := String.ofList ('"' :: s.toList.flatMap escape ++ ['"'])

/-- The text of a value that is neither an array nor an object. -/
def scalarText : Json → String
  | .bool true => "true"
  | .bool false => "false"
  | .integer n => toString n
  | .string s => quote s
  | _ => "null"

/-- How the parts of an array or object are set: what stands before the first, between two and
after the last. -/
structure Setting where
  before : String
  between : String
  after : String
  /-- What stands between a key and its value. -/
  colon : String

/-- The parts in their setting. -/
def Setting.join (setting : Setting) (opening closing : String) (parts : List String) : String :=
  if parts.isEmpty then opening ++ closing
  else opening ++ setting.before ++ setting.between.intercalate parts ++ setting.after ++ closing

mutual

/-- The text of a value inside `depth` others, in the setting for that depth. -/
def text (setting : Nat → Setting) (depth : Nat) : Json → String
  | .array values => (setting depth).join "[" "]" (texts setting (depth + 1) values)
  | .object fields => (setting depth).join "\x7b" "\x7d" (fieldTexts setting (depth + 1) fields)
  | value => scalarText value

/-- The texts of the items of an array. -/
def texts (setting : Nat → Setting) (depth : Nat) : List Json → List String
  | [] => []
  | value :: rest => text setting depth value :: texts setting depth rest

/-- The texts of the fields of an object. -/
def fieldTexts (setting : Nat → Setting) (depth : Nat) : List (String × Json) → List String
  | [] => []
  | (key, value) :: rest =>
    (quote key ++ (setting depth).colon ++ text setting depth value) ::
      fieldTexts setting depth rest

end

/-- The setting that puts everything on one line. -/
def compactSetting : Setting := ⟨"", ",", "", ":"⟩

/-- The setting that gives every part a line of its own. -/
def prettySetting (depth : Nat) : Setting :=
  let line (depth : Nat) := "\n" ++ String.ofList (List.replicate (2 * depth) ' ')
  ⟨line (depth + 1), "," ++ line (depth + 1), line depth, ": "⟩

/-- The text of a value on one line. -/
def compact (value : Json) : String := text (fun _ => compactSetting) 0 value

/-- The text of a value with every part on a line of its own. -/
def pretty (value : Json) : String := text prettySetting 0 value

end PluginBuild.Json
