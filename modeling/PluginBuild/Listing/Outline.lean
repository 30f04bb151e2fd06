import PluginBuild.Listing.Line
import PluginBuild.Listing.MethodHeader
import PluginBuild.Listing.ExportMarker
/-!
# Outline of a listing

A listing as a forest: lines, and blocks that have a header line and an outline of their own. In
document order the lines of an outline are the lines of the listing.
-/

namespace PluginBuild.Listing

/-- A sequence of lines and blocks. -/
inductive Outline
  | nil
  | leaf (line : Line) (rest : Outline)
  /-- A block of the given kind and what its declaration says, if it is a method. -/
  | block (kind : BlockKind) (header : Line) (method : Option MethodHeader) (body rest : Outline)
deriving DecidableEq

/-- A block of an outline. -/
structure Block where
  kind : BlockKind
  header : Line
  method : Option MethodHeader
  body : Outline

namespace Outline

/-- The outline without blocks. -/
def ofLines : List Line → Outline
  | [] => nil
  | line :: rest => leaf line (ofLines rest)

/-- One outline after another. -/
def append : Outline → Outline → Outline
  | nil, other => other
  | leaf line rest, other => leaf line (rest.append other)
  | block kind header method body rest, other => block kind header method body (rest.append other)

/-- The lines in document order, headers included. -/
def lines : Outline → List Line
  | nil => []
  | leaf line rest => line :: rest.lines
  | block _ header _ body rest => header :: (body.lines ++ rest.lines)

/-- The text of the lines. -/
def text (outline : Outline) : List Char := outline.lines.flatMap Line.text

/-- The lines outside of blocks. -/
def leaves : Outline → List Line
  | nil => []
  | leaf line rest => line :: rest.leaves
  | block _ _ _ _ rest => rest.leaves

/-- The blocks outside of other blocks. -/
def blocks : Outline → List Block
  | nil => []
  | leaf _ rest => rest.blocks
  | block kind header method body rest => ⟨kind, header, method, body⟩ :: rest.blocks

/-- All blocks, each before the blocks in it. -/
def allBlocks : Outline → List Block
  | nil => []
  | leaf _ rest => rest.allBlocks
  | block kind header method body rest =>
    ⟨kind, header, method, body⟩ :: (body.allBlocks ++ rest.allBlocks)

/-- The lines that go on with a declaration: those before the line that starts with a brace, or up
to the first that has a brace. -/
def clauseText : Outline → List Char
  | nil => []
  | block .. => []
  | leaf line rest =>
    if line.trimmed.head? = some '\x7b' then []
    else if '\x7b' ∈ line.text then line.text
    else line.text ++ rest.clauseText

/-- The text of a header with the lines that go on with its declaration. -/
def declaration (header : List Char) (body : Outline) : List Char :=
  if '\x7b' ∈ header then header else header ++ body.clauseText

/-- A block before an outline. What the block's declaration says is read off its lines. -/
def ofBlock (kind : BlockKind) (header : Line) (body rest : Outline) : Outline :=
  let method :=
    if kind = .method then MethodHeader.ofDeclaration? (declaration header.text body) else none
  block kind header method body rest

end Outline

namespace Block

/-- The header with the lines that go on with the declaration. -/
def declaration (block : Block) : List Char :=
  Outline.declaration block.header.text block.body

/-- The export markers among the lines of a method. -/
def markers (block : Block) : List ExportMarker :=
  if block.kind = .method then
    block.body.leaves.filterMap fun line => ExportMarker.ofLine? line.text
  else []

/-- The name of a method, empty where its declaration states none. -/
def methodName (block : Block) : String :=
  match block.method with
  | some header => header.name
  | none => ""

end Block

namespace Outline

/-- The method blocks, in document order. -/
def methods (outline : Outline) : List Block :=
  outline.allBlocks.filter (·.kind = .method)

/-- The export markers with the names of their methods, in document order. -/
def exports (outline : Outline) : List (String × ExportMarker) :=
  outline.methods.flatMap fun block => block.markers.map (block.methodName, ·)

end Outline

end PluginBuild.Listing
