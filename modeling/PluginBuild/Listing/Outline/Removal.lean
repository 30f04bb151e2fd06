import PluginBuild.Listing.Outline
/-!
# Removing exports

Taking the markers with given names out of the methods of an outline. All other lines, and all
blocks, stay as they are.
-/

namespace PluginBuild.Listing

/-- A marker that was taken out. -/
structure RemovedExport where
  name : String
  /-- The name of the method that had the marker. -/
  method : String
  /-- The number of the marker's line. -/
  line : Nat
deriving DecidableEq

namespace Outline

/-- The name that a line exports, if it is one of `names`. -/
def markedName? (names : List String) (line : Line) : Option String :=
  ((ExportMarker.ofLine? line.text).map (·.name)).filter (· ∈ names)

/-- The outline without the lines outside of blocks that export one of `names`. -/
def dropMarkers (names : List String) : Outline → Outline
  | nil => nil
  | leaf line rest =>
    if (markedName? names line).isSome then rest.dropMarkers names
    else leaf line (rest.dropMarkers names)
  | block kind header method body rest => block kind header method body (rest.dropMarkers names)

/-- The outline without the markers in methods that export one of `names`. -/
def removeExports (names : List String) : Outline → Outline
  | nil => nil
  | leaf line rest => leaf line (rest.removeExports names)
  | block kind header method body rest =>
    let body := body.removeExports names
    block kind header method (if kind = .method then body.dropMarkers names else body)
      (rest.removeExports names)

end Outline

/-- The markers in a block, outside of blocks in it, that export one of `names`. -/
def Block.removals (names : List String) (block : Block) : List RemovedExport :=
  if block.kind = .method then
    block.body.leaves.filterMap fun line =>
      (Outline.markedName? names line).map fun name => ⟨name, block.methodName, line.number⟩
  else []

/-- What a removal took out, and which of the names it was given it did not find. -/
structure RemovalReport where
  /-- In document order. -/
  removed : List RemovedExport
  /-- In the order of the names given. -/
  missing : List String

/-- The removal of `names` from an outline, as a report. -/
def Outline.removalReport (names : List String) (outline : Outline) : RemovalReport :=
  let removed := outline.allBlocks.flatMap (Block.removals names)
  ⟨removed, names.filter fun name => name ∉ removed.map (·.name)⟩

end PluginBuild.Listing
