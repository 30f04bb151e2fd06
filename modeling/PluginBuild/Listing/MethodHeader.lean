import PluginBuild.Listing.Item
import PluginBuild.Listing.Token
import PluginBuild.Metadata.Visibility
/-!
# Method headers

The facts that the declaration of a method states before its body: its name, its parameters and
its qualifiers.
-/

namespace PluginBuild.Listing

open Metadata (Visibility)

/-- What a method declaration says. -/
structure MethodHeader where
  /-- The name, without quotes or generic parameters. -/
  name : String
  /-- The name and the parameter list as written. -/
  signature : String
  /-- The parameter list as written, without its parentheses. -/
  params : String
  visibility : Visibility
  isStatic : Bool
  isVirtual : Bool
  isAbstract : Bool
  isNewslot : Bool
  isFinal : Bool
deriving DecidableEq

namespace MethodHeader

/-- The header of which only the keyword has been read. -/
def unnamed : MethodHeader :=
  ⟨"", "", "", .private, false, false, false, false, false⟩

/-- The words whose groups hold marshaling facts and are no parameter lists. -/
def qualifiers : List String := ["marshal", "modopt", "modreq", "pinvokeimpl"]

/-- The header with one more word before the name taken in. -/
def addWord (header : MethodHeader) (word : String) : MethodHeader :=
  match Visibility.ofKeyword? word with
  | some visibility => { header with visibility }
  | none =>
    match word with
    | "static" => { header with isStatic := true }
    | "instance" => { header with isStatic := false }
    | "virtual" => { header with isVirtual := true }
    | "abstract" => { header with isAbstract := true }
    | "newslot" => { header with isNewslot := true }
    | "final" => { header with isFinal := true }
    | _ => header

/-- The name in the word that the parameter list follows. -/
def nameOfWord (word : List Char) : List Char :=
  if word.head? = some '\'' then unquote word else word.takeWhile (· ≠ '<')

/-- The header completed by the first word that has a parameter list; without one there is no
header. -/
def complete? (header : MethodHeader) : List Token → Option MethodHeader
  | [] => none
  | token :: rest =>
    match token.group with
    | none => complete? (header.addWord token.word) rest
    | some group =>
      if token.word ∈ qualifiers ∨ token.word = "" then complete? header rest
      else some { header with
        name := String.ofList (nameOfWord token.word.toList)
        signature := token.word ++ "(" ++ group ++ ")"
        params := group }

/-- The header that a declaration starting with the keyword `.method` states. -/
def ofDeclaration? (declaration : List Char) : Option MethodHeader :=
  match tokenize declaration with
  | [] => none
  | token :: rest => if token.word = ".method" then complete? unnamed rest else none

end MethodHeader

end PluginBuild.Listing
