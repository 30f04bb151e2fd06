/-!
# Faults of a listing

A listing is malformed where its parentheses or braces do not balance.
-/

namespace PluginBuild.Listing

/-- The kinds of block a listing is made of. -/
inductive BlockKind
  | assembly
  | type
  | method
  | data
  | other
deriving DecidableEq

/-- The name of a block kind in messages. -/
def BlockKind.name : BlockKind → String
  | .assembly => "assembly"
  | .type => "type"
  | .method => "method"
  | .data => "data"
  | .other => "opaque"

/-- What does not balance. -/
inductive Fault
  /-- A closing parenthesis has no opening one. -/
  | closeParen
  /-- The text ends inside parentheses. -/
  | openParenAtEnd
  /-- A line outside every block closes a brace. -/
  | closeBrace
  /-- A block closes more braces than it opens. -/
  | overclosed (kind : BlockKind)
  /-- The text, or the block around it, ends inside a block. -/
  | unterminated (kind : BlockKind) (keyword : String)
deriving DecidableEq

/-- The wording of a fault. -/
def Fault.message : Fault → String
  | .closeParen => "unbalanced `)`"
  | .openParenAtEnd => "unbalanced `(` at end of input"
  | .closeBrace => "unexpected `\x7d`"
  | .overclosed kind => "unbalanced `\x7d` closing " ++ kind.name ++ " block"
  | .unterminated kind keyword => "unterminated " ++ kind.name ++ " block `" ++ keyword ++ "`"

/-- A fault and the number of the physical line it is reported at. -/
structure Malformed where
  line : Nat
  fault : Fault
deriving DecidableEq

end PluginBuild.Listing
