import PluginBuild.Text.Blank
/-!
# Lists in a listing

Cutting a list, such as a parameter list, at the commas outside all brackets and quotes.
-/

namespace PluginBuild.Listing

/-- How a character changes the number of open brackets. Brackets of all kinds count alike. -/
def bracketStep (c : Char) : Int :=
  if c = '(' ∨ c = '[' ∨ c = '<' then 1
  else if c = ')' ∨ c = ']' ∨ c = '>' then -1
  else 0

/-- The pieces between the top-level commas, with their blanks, of a text inside `depth` brackets
and, where there is one, inside an open quote. A quote closes at the next one like it. -/
def piecesFrom (depth : Int) (quote : Option Char) : List Char → List (List Char)
  | [] => [[]]
  | c :: rest =>
    match quote with
    | some q => (piecesFrom depth (if c = q then none else some q) rest).modifyHead (c :: ·)
    | none =>
      if c = ',' ∧ depth = 0 then [] :: piecesFrom depth none rest
      else
        let quote' := if c = '\'' ∨ c = '"' then some c else none
        (piecesFrom (depth + bracketStep c) quote' rest).modifyHead (c :: ·)

/-- The items of a list, without the blanks around them. A blank last item is no item. -/
def items (s : List Char) : List (List Char) :=
  let pieces := (piecesFrom 0 none s).map Text.trim
  if pieces.getLast? = some [] then pieces.dropLast else pieces

/-- An identifier without the single quotes around it. -/
def unquote (word : List Char) : List Char :=
  match word with
  | '\'' :: rest => if rest.getLast? = some '\'' then rest.dropLast else word
  | _ => word

end PluginBuild.Listing
