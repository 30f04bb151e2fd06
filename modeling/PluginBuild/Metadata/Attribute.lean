import PluginBuild.Metadata.AttributeBlob
import PluginBuild.Metadata.ParamTypes
import PluginBuild.Text.Lines
import PluginBuild.Text.Numeral
/-!
# Attributes in a listing

A line `.custom instance void Type::.ctor(params) = value` states an attribute. The value is a
blob in parentheses or a list of arguments in braces.
-/

namespace PluginBuild.Metadata

open Listing Text

/-- A name without its generic arguments. -/
def withoutGenerics (name : List Char) : List Char := name.takeWhile (· ≠ '<')

/-- The name of a type that a listing refers to. -/
def typeRefName (text : List Char) : String :=
  String.ofList (withoutGenerics (unquote (normalize text)))

/-- The bytes written in base sixteen between blanks. Line comments and all else are passed
over. -/
def bytesOfHex (text : List Char) : List UInt8 :=
  ((physicalLines text).flatMap fun line => words (beforeFirst "//".toList line)).filterMap
    fun word => (unsigned? 16 255 word).map UInt8.ofNat

/-- The argument that a word with a group in braces states. -/
def argOfToken? (token : Token) : Option AttributeArg :=
  token.group.map fun group =>
    let text := trim group.toList
    if token.word = "string" then
      .string (if text = "nullref".toList then none else some (String.ofList (unquote text)))
    else if token.word = "type" then .type (typeRefName text)
    else if token.word = "bool" then .boolean (text == "true".toList)
    else if "int".toList.isPrefixOf token.word.toList ∨ "uint".toList.isPrefixOf token.word.toList
    then
      match signed? minInt64 maxInt64 text with
      | some value => .integer value
      | none => .other group
    else .other (token.word ++ "(" ++ group ++ ")")

/-- The arguments that the tokens after the equals sign state. -/
def argsOfValue (value : List Token) (params : List String) : List AttributeArg :=
  match value with
  | [] => []
  | ⟨"", some blob⟩ :: _ => argsOfBlob (bytesOfHex blob.toList) params
  | value => value.filterMap argOfToken?

/-- How the word that names a constructor ends. -/
def constructorEnd : List Char := "::.ctor".toList

/-- The attribute that a line states. -/
def attributeOfLine? (line : List Char) : Option CustomAttribute := do
  let tokens := tokenize line
  guard (tokens.head?.any (·.word = ".custom"))
  let constructor ← tokens.find? fun token => constructorEnd.isSuffixOf token.word.toList
  guard (tokens.any (·.word = "="))
  let value := (tokens.dropWhile (·.word ≠ "=")).drop 1
  return ⟨typeRefName (dropEndPieces constructorEnd constructor.word.toList),
    argsOfValue value (paramTypes (constructor.group.getD "").toList)⟩

end PluginBuild.Metadata
