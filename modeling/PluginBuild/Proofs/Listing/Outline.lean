import PluginBuild.Listing.Outline.Removal
import PluginBuild.Proofs.Listing.Line
/-!
# Outlines in document order

`Outline.entries` lists what an outline has in document order: where a block starts and ends, and
the lines with the method each is a line of. An outline is known by its entries
(`entries_injective`). `Outline.unplaced` forgets where the lines stand.
-/

namespace PluginBuild.Listing

/-- What stands at one place of an outline. -/
inductive Entry
  /-- The start of a block. -/
  | enter (kind : BlockKind) (header : Line) (method : Option MethodHeader)
  /-- A line that is no header. `owner` is the name of the method that it is a line of, in a block
  of its own kind and not in one within it. -/
  | leaf (owner : Option String) (line : Line)
  /-- The end of a block. -/
  | leave
deriving DecidableEq

namespace Entry

/-- The line of an entry. -/
def line? : Entry → Option Line
  | enter _ header _ => some header
  | leaf _ line => some line
  | leave => none

/-- Whether an entry stays when `names` are no longer exported: it is not the marker of one of
them in a method. -/
def isKept (names : List String) : Entry → Bool
  | leaf (some _) line => (Outline.markedName? names line).isNone
  | _ => true

@[simp] theorem isKept_enter {names : List String} {kind : BlockKind} {header : Line}
    {method : Option MethodHeader} : isKept names (enter kind header method) = true := rfl

@[simp] theorem isKept_leaf_none {names : List String} {line : Line} :
    isKept names (leaf none line) = true := rfl

@[simp] theorem isKept_leaf_some {names : List String} {owner : String} {line : Line} :
    isKept names (leaf (some owner) line) = (Outline.markedName? names line).isNone := rfl

@[simp] theorem isKept_leave {names : List String} : isKept names leave = true := rfl

end Entry

/-- The name of a block that is a method. -/
def Block.owner (block : Block) : Option String :=
  if block.kind = .method then some block.methodName else none

namespace Outline

/-- The entries of the outline of lines that belong to `owner`. -/
def entriesIn (owner : Option String) : Outline → List Entry
  | nil => []
  | leaf line rest => .leaf owner line :: rest.entriesIn owner
  | block kind header method body rest =>
    .enter kind header method ::
      (body.entriesIn (Block.owner ⟨kind, header, method, body⟩) ++
        .leave :: rest.entriesIn owner)

/-- The entries of an outline in document order. -/
def entries (outline : Outline) : List Entry := outline.entriesIn none

/-- The lines that a removal of `names` takes out. -/
def removedLines (names : List String) (outline : Outline) : List Line :=
  (outline.entries.filter (!·.isKept names)).filterMap Entry.line?

/-- The outline with each line changed. -/
def mapLines (f : Line → Line) : Outline → Outline
  | nil => nil
  | leaf line rest => leaf (f line) (rest.mapLines f)
  | block kind header method body rest =>
    block kind (f header) method (body.mapLines f) (rest.mapLines f)

/-- The outline without the places of its lines. -/
def unplaced (outline : Outline) : Outline := outline.mapLines Line.unplaced

/-- The lines of an outline are those of its entries. -/
theorem filterMap_line_entriesIn (owner : Option String) (outline : Outline) :
    (outline.entriesIn owner).filterMap Entry.line? = outline.lines := by
  induction outline generalizing owner with
  | nil => rfl
  | leaf line rest ih => simp only [entriesIn, lines, List.filterMap_cons, Entry.line?, ih]
  | block kind header method body rest ihbody ih =>
    simp only [entriesIn, lines, List.filterMap_cons, List.filterMap_append, Entry.line?, ihbody,
      ih]

theorem filterMap_line_entries (outline : Outline) :
    outline.entries.filterMap Entry.line? = outline.lines :=
  filterMap_line_entriesIn none outline

theorem filterMap_line_leaves (owner : Option String) (lines : List Line) :
    (lines.map (Entry.leaf owner)).filterMap Entry.line? = lines := by
  induction lines with
  | nil => rfl
  | cons line rest ih => rw [List.map_cons, List.filterMap_cons, ih]; rfl

theorem entriesIn_append (owner : Option String) (a b : Outline) :
    (a.append b).entriesIn owner = a.entriesIn owner ++ b.entriesIn owner := by
  induction a with
  | nil => rfl
  | leaf line rest ih => simp [append, entriesIn, ih]
  | block kind header method body rest _ ih => simp [append, entriesIn, ih]

theorem entries_append (a b : Outline) : (a.append b).entries = a.entries ++ b.entries :=
  entriesIn_append none a b

theorem entriesIn_ofLines (owner : Option String) (lines : List Line) :
    (ofLines lines).entriesIn owner = lines.map (.leaf owner) := by
  induction lines with
  | nil => rfl
  | cons line rest ih => rw [ofLines, entriesIn, ih, List.map_cons]

/-- The lines that a removal takes out are those of the entries that are not kept. -/
theorem mem_removedLines {names : List String} {outline : Outline} {line : Line} :
    line ∈ outline.removedLines names ↔
      ∃ entry ∈ outline.entries, entry.isKept names = false ∧ entry.line? = some line := by
  simp [removedLines, and_assoc]

/-- Entries that go on with the end of the block around them, if at all, show where they end. -/
theorem eq_of_entriesIn_append {owner : Option String} {a b : Outline} {s t : List Entry}
    (hs : ∀ entry ∈ s.head?, entry = .leave) (ht : ∀ entry ∈ t.head?, entry = .leave)
    (h : a.entriesIn owner ++ s = b.entriesIn owner ++ t) : a = b ∧ s = t := by
  induction a generalizing b owner s t with
  | nil =>
    cases b with
    | nil => exact ⟨rfl, h⟩
    | leaf line rest =>
      rw [show s = _ from h] at hs
      cases hs _ rfl
    | block kind header method body rest =>
      rw [show s = _ from h] at hs
      cases hs _ rfl
  | leaf line rest ih =>
    cases b with
    | nil =>
      rw [← show _ = t from h] at ht
      cases ht _ rfl
    | leaf line' rest' =>
      obtain ⟨hline, hrest⟩ := List.cons.inj h
      cases hline
      obtain ⟨rfl, hst⟩ := ih hs ht hrest
      exact ⟨rfl, hst⟩
    | block kind header method body rest' =>
      obtain ⟨hline, -⟩ := List.cons.inj h
      cases hline
  | block kind header method body rest ihbody ih =>
    -- The body is followed by the end of its block, so that the induction shows where it ends.
    cases b with
    | nil =>
      rw [← show _ = t from h] at ht
      cases ht _ rfl
    | leaf line rest' =>
      obtain ⟨hline, -⟩ := List.cons.inj h
      cases hline
    | block kind' header' method' body' rest' =>
      obtain ⟨hblock, hmore⟩ := List.cons.inj h
      cases hblock
      rw [List.append_eq, List.append_eq, List.append_assoc, List.append_assoc] at hmore
      obtain ⟨rfl, htail⟩ := ihbody (by simp) (by simp) hmore
      obtain ⟨rfl, hst⟩ := ih hs ht (List.cons.inj htail).2
      exact ⟨rfl, hst⟩

theorem entries_injective {a b : Outline} (h : a.entries = b.entries) : a = b := by
  have happend : a.entriesIn none ++ [] = b.entriesIn none ++ [] := congrArg (· ++ []) h
  exact (eq_of_entriesIn_append (by simp) (by simp) happend).1

theorem lines_append (a b : Outline) : (a.append b).lines = a.lines ++ b.lines := by
  induction a with
  | nil => rfl
  | leaf line rest ih => simp [append, lines, ih]
  | block kind header method body rest _ ih => simp [append, lines, ih]

theorem lines_ofLines (lines : List Line) : (ofLines lines).lines = lines := by
  induction lines with
  | nil => rfl
  | cons line rest ih => rw [ofLines, Outline.lines, ih]

theorem ofLines_append (a b : List Line) :
    ofLines (a ++ b) = (ofLines a).append (ofLines b) := by
  induction a with
  | nil => rfl
  | cons line rest ih => rw [List.cons_append, ofLines, ih, ofLines, append]

theorem lines_mapLines (f : Line → Line) (outline : Outline) :
    (outline.mapLines f).lines = outline.lines.map f := by
  induction outline with
  | nil => rfl
  | leaf line rest ih => simp [mapLines, lines, ih]
  | block kind header method body rest ihbody ih => simp [mapLines, lines, ihbody, ih]

theorem mapLines_mapLines (f g : Line → Line) (outline : Outline) :
    (outline.mapLines f).mapLines g = outline.mapLines fun line => g (f line) := by
  induction outline with
  | nil => rfl
  | leaf line rest ih => simp [mapLines, ih]
  | block kind header method body rest ihbody ih => simp [mapLines, ihbody, ih]

theorem mapLines_append (f : Line → Line) (a b : Outline) :
    (a.append b).mapLines f = (a.mapLines f).append (b.mapLines f) := by
  induction a with
  | nil => rfl
  | leaf line rest ih => simp [append, mapLines, ih]
  | block kind header method body rest _ ih => simp [append, mapLines, ih]

theorem mapLines_ofLines (f : Line → Line) (lines : List Line) :
    (ofLines lines).mapLines f = ofLines (lines.map f) := by
  induction lines with
  | nil => rfl
  | cons line rest ih => rw [ofLines, mapLines, ih, List.map_cons, ofLines]

end Outline

end PluginBuild.Listing
