import PluginBuild.Listing.Item
import PluginBuild.Listing.Token
import PluginBuild.Metadata.TypeName
/-!
# Types of parameters

The types in a parameter list, with or without parameter names, each in its one form.
-/

namespace PluginBuild.Metadata

open Listing

/-- The words that are no part of a parameter's type or name. -/
def parameterMarkers : List String := ["marshal", "modopt", "modreq", "[in]", "[out]", "[opt]"]

/-- The words that the word after them completes to a type. -/
def typeBeginnings : List String := ["native", "unsigned", "class", "valuetype"]

/-- Whether a character stands in types only, never in a parameter's name. -/
def isTypeMark (c : Char) : Bool :=
  c == '.' || c == '[' || c == ']' || c == '&' || c == '*' || c == '<' || c == '>' || c == '!' ||
    c == '\x60'

/-- Whether the last of the words is the parameter's name. -/
def endsInName (words : List String) : Bool :=
  match words.reverse with
  | last :: previous :: _ =>
    previous ∉ typeBeginnings && !last.toList.any isTypeMark
  | _ => false

/-- The type of a parameter. -/
def paramType (param : List Char) : String :=
  let words := ((tokenize param).map (·.word)).filter (· ∉ parameterMarkers)
  let typeWords := if endsInName words then words.dropLast else words
  String.ofList (normalize (joinWords (typeWords.map String.toList)))

/-- The types of a parameter list. -/
def paramTypes (params : List Char) : List String := (items params).map paramType

end PluginBuild.Metadata
