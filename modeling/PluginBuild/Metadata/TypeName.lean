import PluginBuild.Text.Blank
import PluginBuild.Text.Cut
/-!
# Type names

Types as a listing writes them, brought to one form so that equal types have equal names: without
assembly scopes and type keywords, and with single blanks.
-/

namespace PluginBuild.Metadata

open Text

/-- The last segment of a name whose segments dots and slashes part. -/
def simpleName (fullName : String) : String :=
  String.ofList ((fullName.toList.reverse.takeWhile fun c => c ≠ '.' ∧ c ≠ '/').reverse)

/-- Whether what stands in brackets makes them an array suffix and no assembly scope. -/
def isArrayBounds (inner : List Char) : Bool :=
  inner.all fun c => c.isDigit || c == '.' || c == ',' || c == ' '

/-- The text without the assembly scopes in it. The characters read since an opening bracket come
last first; an unclosed bracket stays. -/
def dropScopesFrom : Option (List Char) → List Char → List Char
  | none, [] => []
  | some inner, [] => '[' :: inner.reverse
  | none, c :: rest =>
    if c = '[' then dropScopesFrom (some []) rest else c :: dropScopesFrom none rest
  | some inner, c :: rest =>
    if c = ']' then
      (if isArrayBounds inner then '[' :: inner.reverse ++ [']'] else []) ++
        dropScopesFrom none rest
    else dropScopesFrom (some (c :: inner)) rest

/-- The text without the assembly scopes in it. -/
def dropScopes (s : List Char) : List Char := dropScopesFrom none s

/-- The words joined by single spaces. -/
def joinWords : List (List Char) → List Char
  | [] => []
  | [word] => word
  | word :: rest => word ++ ' ' :: joinWords rest

/-- The text without the spaces that stand directly before `piece`. -/
def closeUp (piece : List Char) : List Char → List Char
  | [] => []
  | c :: rest =>
    if c = ' ' ∧ piece.isPrefixOf rest then closeUp piece rest else c :: closeUp piece rest

/-- Whether a word only says what sort of type follows. -/
def isTypeKeyword (word : List Char) : Bool :=
  word == "class".toList || word == "valuetype".toList

/-- The one form of a type as a listing writes it. -/
def normalize (s : List Char) : List Char :=
  closeUp "[]".toList (closeUp ['*'] (closeUp ['&']
    (joinWords ((words (dropScopes s)).filter (!isTypeKeyword ·)))))

end PluginBuild.Metadata
