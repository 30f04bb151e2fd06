import PluginBuild.Proofs.Listing.Blocks
/-!
# Changing lines

Which lines make a block depends on their braces, on their keywords and on whether they go on with
a declaration. Lines that are changed in no other way have the changed outline
(`KeepsBlocks.reads`). Where they stand does not matter: lines that are moved have the moved outline
(`Moves.reads`).
-/

namespace PluginBuild.Listing

/-- A change of lines that keeps which blocks they begin and which braces they have. A line may
cease to go on with a declaration, but none comes to do so. -/
structure KeepsBlocks (f : Line → Line) : Prop where
  opens_eq : ∀ line, (f line).opens = line.opens
  closes_eq : ∀ line, (f line).closes = line.closes
  opens?_eq : ∀ region line, Region.opens? region (f line).keyword = region.opens? line.keyword
  bodyRegion_eq : ∀ kind line, bodyRegion? kind (f line).keyword = bodyRegion? kind line.keyword
  goesOn : ∀ line, (f line).goesOn = true → line.goesOn = true

/-- An extent with each line changed. -/
def Extent.mapLines (f : Line → Line) (e : Extent) : Extent :=
  ⟨e.clause.map f, e.inner.map f, e.close.map f, e.delimited, e.after.map f⟩

theorem Extent.mapLines_around (f : Line → Line) (e : Extent) (inner : Outline) :
    (e.around inner).mapLines f = (e.mapLines f).around (inner.mapLines f) := by
  rw [around, around, Outline.mapLines_append, Outline.mapLines_append,
    Outline.mapLines_ofLines, Outline.mapLines_ofLines, mapLines]
  cases e.close <;> rfl

/-! ### Blocks -/

/-- The lines that go on with the declaration of a block, with the one that opens the body. -/
def Block.clause (block : Block) : List Line :=
  (takeDeclaration block.header block.body.lines).1

/-- A block with each line changed. -/
def Block.mapLines (f : Line → Line) (block : Block) : Block :=
  { block with header := f block.header, body := block.body.mapLines f }

/-- After the change the declaration of the block is what it was. -/
structure Block.KeepsDeclaration (f : Line → Line) (block : Block) : Prop where
  header_text : (f block.header).text = block.header.text
  declaration_eq : (block.mapLines f).declaration = block.declaration
  clause_goesOn : ∀ line ∈ block.clause, (f line).goesOn = line.goesOn

namespace Outline

theorem leaves_mapLines (f : Line → Line) (outline : Outline) :
    (outline.mapLines f).leaves = outline.leaves.map f := by
  induction outline with
  | nil => rfl
  | leaf line rest ih => simp [mapLines, leaves, ih]
  | block kind header method body rest _ ih => simp [mapLines, leaves, ih]

theorem blocks_mapLines (f : Line → Line) (outline : Outline) :
    (outline.mapLines f).blocks = outline.blocks.map (Block.mapLines f) := by
  induction outline with
  | nil => rfl
  | leaf line rest ih => simp [mapLines, blocks, ih]
  | block kind header method body rest _ ih => simp [mapLines, blocks, ih, Block.mapLines]

theorem allBlocks_mapLines (f : Line → Line) (outline : Outline) :
    (outline.mapLines f).allBlocks = outline.allBlocks.map (Block.mapLines f) := by
  induction outline with
  | nil => rfl
  | leaf line rest ih => simp [mapLines, allBlocks, ih]
  | block kind header method body rest ihbody ih =>
    simp [mapLines, allBlocks, ihbody, ih, Block.mapLines]

/-- The exports are those that the lines mark. -/
theorem exports_mapLines {f : Line → Line}
    (hf : ∀ line, ExportMarker.ofLine? (f line).text = ExportMarker.ofLine? line.text)
    (outline : Outline) : (outline.mapLines f).exports = outline.exports := by
  rw [exports, exports, methods, methods, allBlocks_mapLines, List.filter_map, List.flatMap_map]
  refine congrArg₂ List.flatMap (funext fun block => ?_) rfl
  have hmarkers : (block.body.mapLines f).leaves.filterMap (ExportMarker.ofLine? ·.text) =
      block.body.leaves.filterMap (ExportMarker.ofLine? ·.text) := by
    rw [leaves_mapLines, List.filterMap_map]
    exact congrArg₂ List.filterMap (funext hf) rfl
  rw [Block.mapLines, Block.markers, Block.markers, hmarkers]
  rfl

theorem append_nil (a : Outline) : a.append nil = a := by
  induction a with
  | nil => rfl
  | leaf line rest ih => rw [append, ih]
  | block kind header method body rest _ ih => rw [append, ih]

/-- An outline without lines has no blocks either. -/
theorem eq_nil_of_lines {outline : Outline} (h : outline.lines = []) : outline = nil := by
  cases outline with
  | nil => rfl
  | leaf => cases h
  | block => cases h

/-- The header and the lines of a block are among those of the outline, in their order. -/
theorem lines_sublist_of_mem_allBlocks {outline : Outline} {block : Block}
    (h : block ∈ outline.allBlocks) : (block.header :: block.body.lines).Sublist outline.lines := by
  induction outline with
  | nil => cases h
  | leaf line rest ih => exact (ih h).cons line
  | block kind header method body rest ihbody ih =>
    rcases List.mem_cons.1 h with rfl | h
    · exact (List.sublist_append_left _ _).cons_cons _
    · refine List.Sublist.cons _ ?_
      rcases List.mem_append.1 h with h | h
      · exact (ihbody h).trans (List.sublist_append_left _ _)
      · exact (ih h).trans (List.sublist_append_right _ _)

theorem lines_subset_of_mem_allBlocks {outline : Outline} {block : Block}
    (h : block ∈ outline.allBlocks) : block.header :: block.body.lines ⊆ outline.lines :=
  (lines_sublist_of_mem_allBlocks h).subset

/-- A declaration goes no further than the line with its first brace. -/
theorem clauseText_append {a : List Line} (h : ∃ line ∈ a, '\x7b' ∈ line.text) (b : Outline) :
    ((ofLines a).append b).clauseText = (ofLines a).clauseText := by
  induction a with
  | nil => simp at h
  | cons line rest ih =>
    rw [ofLines, append, clauseText, clauseText]
    by_cases hline : '\x7b' ∈ line.text
    · rw [if_pos hline, if_pos hline]
    · obtain ⟨other, hother, hbrace⟩ := h
      have hne : other ≠ line := by
        rintro rfl
        exact hline hbrace
      rw [ih ⟨other, (List.mem_cons.1 hother).resolve_left hne, hbrace⟩]

end Outline

/-- A declaration that opens a body ends where it does so: it goes no further than its first
brace. -/
theorem Opens.declaration_append {header opening : Line} {clause : List Line}
    (h : Opens header clause opening)
    (hbraces : ∀ line ∈ header :: clause, 0 < line.opens → '\x7b' ∈ line.text) (b : Outline) :
    Outline.declaration header.text ((Outline.ofLines clause).append b) =
      Outline.declaration header.text (.ofLines clause) := by
  rw [Outline.declaration, Outline.declaration]
  cases h with
  | atHeader h =>
    have hheader := hbraces header (by simp) h
    rw [if_pos hheader, if_pos hheader]
  | atClause _ _ _ h =>
    rw [Outline.clauseText_append ⟨opening, by simp, hbraces opening (by simp) h⟩]

namespace HasExtent

variable {header : Line} {rest : List Line} {e : Extent}

/-- The clauses of a block can be told from its lines. -/
theorem clause_eq (h : HasExtent header rest e) {inner : Outline} (hinner : inner.lines = e.inner) :
    (takeDeclaration header (e.around inner).lines).1 = e.clause := by
  rw [Extent.lines_around, hinner]
  cases h with
  | bare hbody hnet =>
    have hends : NoBody header _ [] := ⟨hbody.header_opens, hbody.clause_goesOn, by simp⟩
    exact congrArg Prod.fst hends.takeDeclaration
  | closed hopens hnet => exact congrArg Prod.fst hopens.takeDeclaration
  | enclosed hopens _ hnet => exact congrArg Prod.fst hopens.takeDeclaration

/-- What the declaration of a block says is on its header and clauses. -/
theorem declaration_around (h : HasExtent header rest e) {inner : Outline}
    (hinner : inner.lines = e.inner)
    (hbraces : ∀ line ∈ header :: e.clause, 0 < line.opens → '\x7b' ∈ line.text) :
    Outline.declaration header.text (e.around inner) =
      Outline.declaration header.text (.ofLines e.clause) := by
  cases h with
  | bare =>
    rw [Outline.eq_nil_of_lines hinner, Extent.around, Outline.append, Option.toList_none,
      Outline.ofLines, Outline.append_nil]
  | closed hopens _ => exact hopens.declaration_append hbraces _
  | enclosed hopens _ _ => exact hopens.declaration_append hbraces _

end HasExtent

/-! ### Outlines -/

namespace KeepsBlocks

variable {f : Line → Line}

theorem net_eq (hf : KeepsBlocks f) (line : Line) : (f line).net = line.net := by
  rw [Line.net, Line.net, hf.opens_eq, hf.closes_eq]

theorem kindOf_eq (hf : KeepsBlocks f) (region : Region) (line : Line) :
    region.kindOf (f line) = region.kindOf line := by
  rw [Region.kindOf, Region.kindOf, hf.opens?_eq, hf.net_eq]

theorem netOf_map (hf : KeepsBlocks f) (lines : List Line) : netOf (lines.map f) = netOf lines := by
  induction lines with
  | nil => rfl
  | cons line rest ih => rw [List.map_cons, netOf, netOf, ih, hf.net_eq]

theorem staysOpen_map (hf : KeepsBlocks f) {depth : Int} {lines : List Line} :
    StaysOpen depth (lines.map f) ↔ StaysOpen depth lines := by
  induction lines generalizing depth with
  | nil => rfl
  | cons line rest ih => rw [List.map_cons, StaysOpen, StaysOpen, ih, hf.net_eq]

/-- Clauses that open no body are still such clauses. -/
theorem clauses (hf : KeepsBlocks f) {clause : List Line}
    (hclause : ∀ line ∈ clause, (f line).goesOn = line.goesOn)
    (h : ∀ line ∈ clause, line.goesOn = true ∧ line.opens = 0) :
    ∀ line ∈ clause.map f, line.goesOn = true ∧ line.opens = 0 := by
  intro line hline
  obtain ⟨other, hother, rfl⟩ := List.mem_map.1 hline
  rw [hclause other hother, hf.opens_eq]
  exact h other hother

theorem opens (hf : KeepsBlocks f) {header opening : Line} {clause : List Line}
    (hclause : ∀ line ∈ clause, (f line).goesOn = line.goesOn)
    (h : Opens header clause opening) : Opens (f header) (clause.map f) (f opening) := by
  cases h with
  | atHeader h => exact .atHeader (by rwa [hf.opens_eq])
  | atClause hheader hclauses hgoesOn hopens =>
    obtain ⟨hbefore, hlast⟩ := List.forall_mem_append.1 hclause
    rw [List.map_append]
    exact .atClause (by rwa [hf.opens_eq]) (hf.clauses hbefore hclauses)
      (by rwa [hlast _ (by simp)]) (by rwa [hf.opens_eq])

theorem noBody (hf : KeepsBlocks f) {header : Line} {clause after : List Line}
    (hclause : ∀ line ∈ clause, (f line).goesOn = line.goesOn)
    (h : NoBody header clause after) : NoBody (f header) (clause.map f) (after.map f) := by
  refine ⟨by rw [hf.opens_eq, h.header_opens], hf.clauses hclause h.clause_goesOn, ?_⟩
  intro line hline
  rw [List.head?_map] at hline
  obtain ⟨other, hother, rfl⟩ := Option.map_eq_some_iff.1 hline
  refine Bool.eq_false_iff.2 fun hgoesOn => ?_
  have hends := h.ends other hother
  rw [hf.goesOn other hgoesOn] at hends
  cases hends

/-- A block goes as far after the change. -/
theorem hasExtent (hf : KeepsBlocks f) {header : Line} {rest : List Line} {e : Extent}
    (hclause : ∀ line ∈ e.clause, (f line).goesOn = line.goesOn)
    (h : HasExtent header rest e) : HasExtent (f header) (rest.map f) (e.mapLines f) := by
  have hdeclaration (clause : List Line) :
      netOf (f header :: clause.map f) = netOf (header :: clause) :=
    hf.netOf_map (header :: clause)
  cases h with
  | bare hbody hnet =>
    rw [List.map_append]
    exact .bare (hf.noBody hclause hbody) (by rw [hdeclaration, hnet])
  | closed hopens hnet =>
    rw [List.map_append]
    exact .closed (hf.opens hclause hopens) (by rw [hdeclaration, hnet])
  | @enclosed clause inner after opening close hopens hinner hnet =>
    rw [List.map_append, List.map_append, List.map_cons, Extent.mapLines, ← hf.net_eq opening,
      ← hf.net_eq close]
    refine .enclosed (hf.opens hclause hopens) ?_ ?_
    · rw [hdeclaration]
      exact hf.staysOpen_map.2 hinner
    · rw [hdeclaration, hf.netOf_map, hf.net_eq, hnet]

/-- A block with an unchanged declaration is read from its changed lines. -/
theorem ofBlock_mapLines {kind : BlockKind} {header : Line} {method : Option MethodHeader}
    {body : Outline} (h : Block.KeepsDeclaration f ⟨kind, header, method, body⟩) (rest : Outline) :
    (Outline.ofBlock kind header body rest).mapLines f =
      .ofBlock kind (f header) (body.mapLines f) (rest.mapLines f) := by
  have hdeclaration : Outline.declaration (f header).text (body.mapLines f) =
      Outline.declaration header.text body := h.declaration_eq
  rw [Outline.ofBlock, Outline.ofBlock, Outline.mapLines, hdeclaration]

/-- Changed lines have the changed outline, if the declarations are unchanged. -/
theorem reads (hf : KeepsBlocks f) {region : Region} {lines : List Line} {outline : Outline}
    (h : Reads region lines outline)
    (hblocks : ∀ block ∈ outline.allBlocks, block.KeepsDeclaration f) :
    Reads region (lines.map f) (outline.mapLines f) := by
  -- Of the blocks of a block and the outline after it, the block itself is the first.
  have hsplit {kind : BlockKind} {header : Line} {rest : List Line} {e : Extent}
      {inner outline : Outline} (hextent : HasExtent header rest e) (hinner : inner.lines = e.inner)
      (hblocks : ∀ block ∈ (Outline.ofBlock kind header (e.around inner) outline).allBlocks,
        block.KeepsDeclaration f) :
      (Outline.ofBlock kind header (e.around inner) outline).mapLines f =
          .ofBlock kind (f header) ((e.mapLines f).around (inner.mapLines f)) (outline.mapLines f) ∧
        HasExtent (f header) (rest.map f) (e.mapLines f) ∧
        (∀ block ∈ inner.allBlocks, block.KeepsDeclaration f) ∧
        ∀ block ∈ outline.allBlocks, block.KeepsDeclaration f := by
    rw [Outline.ofBlock, Outline.allBlocks, Extent.allBlocks_around, List.forall_mem_cons,
      List.forall_mem_append] at hblocks
    obtain ⟨hblock, hinside, houtside⟩ := hblocks
    have hclause := hblock.clause_goesOn
    rw [Block.clause, hextent.clause_eq hinner] at hclause
    refine ⟨?_, hf.hasExtent hclause hextent, hinside, houtside⟩
    rw [ofBlock_mapLines hblock, Extent.mapLines_around]
  induction h with
  | nil => exact .nil
  | leaf hkind _ ih => exact .leaf (by rwa [hf.kindOf_eq]) (ih hblocks)
  | flat hkind hextent hregion _ ih =>
    obtain ⟨heq, hextent', -, hafter⟩ := hsplit hextent (Outline.lines_ofLines _) hblocks
    rw [heq, Outline.mapLines_ofLines]
    refine .flat (by rwa [hf.kindOf_eq]) hextent' ?_ (ih hafter)
    rwa [Extent.region?, hf.bodyRegion_eq]
  | nested hkind hextent hregion hinner _ ihinner ih =>
    obtain ⟨heq, hextent', hinside, hafter⟩ := hsplit hextent hinner.lines_eq hblocks
    rw [heq]
    refine .nested (by rwa [hf.kindOf_eq]) hextent' ?_ (ihinner hinside) (ih hafter)
    rwa [Extent.region?, hf.bodyRegion_eq]

end KeepsBlocks

/-- Lines that are different from one another can each be changed to any other line. -/
theorem exists_map_eq {lines changed : List Line} (hnodup : lines.Nodup)
    (hlength : changed.length = lines.length) :
    ∃ f, lines.map f = changed ∧ ∀ line ∉ lines, f line = line := by
  induction lines generalizing changed with
  | nil => exact ⟨id, (List.eq_nil_of_length_eq_zero hlength).symm, fun _ _ => rfl⟩
  | cons line rest ih =>
    obtain ⟨hline, hrest⟩ := List.nodup_cons.1 hnodup
    obtain ⟨other, others, rfl⟩ := List.exists_cons_of_length_eq_add_one hlength
    obtain ⟨f, rfl, hf⟩ := ih hrest (Nat.succ.inj hlength)
    refine ⟨fun l => if l = line then other else f l, ?_, fun l hl => ?_⟩
    · rw [List.map_cons, if_pos rfl]
      refine congrArg _ (List.map_congr_left fun l hl => ?_)
      have hne : l ≠ line := by
        rintro rfl
        exact hline hl
      rw [if_neg hne]
    · rw [List.mem_cons, not_or] at hl
      exact (if_neg hl.1).trans (hf l hl.2)

/-! ### Places -/

/-- A change of lines that changes their places at most. -/
def Moves (f : Line → Line) : Prop := ∀ line, (f line).unplaced = line.unplaced

namespace Moves

variable {f : Line → Line}

/-- What does not depend on the place of a line is the same of the moved line. -/
theorem eq_of {α : Type} (hf : Moves f) (g : Line → α) (hg : ∀ line, g line.unplaced = g line)
    (line : Line) : g (f line) = g line := by
  rw [← hg (f line), hf, hg]

theorem text_eq (hf : Moves f) (line : Line) : (f line).text = line.text :=
  hf.eq_of Line.text (fun _ => rfl) line

theorem keepsBlocks (hf : Moves f) : KeepsBlocks f where
  opens_eq := hf.eq_of Line.opens fun _ => rfl
  closes_eq := hf.eq_of Line.closes fun _ => rfl
  opens?_eq region := hf.eq_of (region.opens? ·.keyword) fun _ => rfl
  bodyRegion_eq kind := hf.eq_of (bodyRegion? kind ·.keyword) fun _ => rfl
  goesOn line hgoesOn := (hf.eq_of Line.goesOn (fun _ => rfl) line).symm.trans hgoesOn

theorem clauseText_mapLines (hf : Moves f) (outline : Outline) :
    (outline.mapLines f).clauseText = outline.clauseText := by
  induction outline with
  | nil => rfl
  | leaf line rest ih =>
    rw [Outline.mapLines, Outline.clauseText, Outline.clauseText, Line.trimmed, Line.trimmed,
      hf.text_eq, ih]
  | block => rfl

/-- Declarations do not depend on where their lines stand. -/
theorem keepsDeclaration (hf : Moves f) (block : Block) : block.KeepsDeclaration f where
  header_text := hf.text_eq block.header
  declaration_eq := by
    rw [Block.declaration, Block.mapLines, hf.text_eq, Outline.declaration,
      hf.clauseText_mapLines]
    rfl
  clause_goesOn line _ := hf.eq_of Line.goesOn (fun _ => rfl) line

/-- Moved lines have the moved outline. -/
theorem reads (hf : Moves f) {region : Region} {lines : List Line} {outline : Outline}
    (h : Reads region lines outline) : Reads region (lines.map f) (outline.mapLines f) :=
  hf.keepsBlocks.reads h fun block _ => hf.keepsDeclaration block

theorem unplaced_mapLines (hf : Moves f) (outline : Outline) :
    (outline.mapLines f).unplaced = outline.unplaced := by
  rw [Outline.unplaced, Outline.mapLines_mapLines, Outline.unplaced]
  exact congrArg outline.mapLines (funext hf)

theorem text_mapLines (hf : Moves f) (outline : Outline) :
    (outline.mapLines f).text = outline.text := by
  rw [Outline.text, Outline.text, Outline.lines_mapLines, List.flatMap_map]
  exact congrArg (outline.lines.flatMap ·) (funext hf.text_eq)

theorem markedName_eq (hf : Moves f) (names : List String) (line : Line) :
    Outline.markedName? names (f line) = Outline.markedName? names line :=
  hf.eq_of (Outline.markedName? names) (fun _ => rfl) line

theorem dropMarkers_mapLines (hf : Moves f) (names : List String) (outline : Outline) :
    (outline.mapLines f).dropMarkers names = (outline.dropMarkers names).mapLines f := by
  induction outline with
  | nil => rfl
  | leaf line rest ih =>
    rw [Outline.mapLines, Outline.dropMarkers, Outline.dropMarkers, hf.markedName_eq, ih]
    split <;> rfl
  | block kind header method body rest _ ih =>
    rw [Outline.mapLines, Outline.dropMarkers, Outline.dropMarkers, Outline.mapLines, ih]

/-- A removal takes the same lines out wherever they stand. -/
theorem removeExports_mapLines (hf : Moves f) (names : List String) (outline : Outline) :
    (outline.mapLines f).removeExports names = (outline.removeExports names).mapLines f := by
  induction outline with
  | nil => rfl
  | leaf line rest ih =>
    rw [Outline.mapLines, Outline.removeExports, Outline.removeExports, Outline.mapLines, ih]
  | block kind header method body rest ihbody ih =>
    rw [Outline.mapLines, Outline.removeExports, Outline.removeExports, Outline.mapLines, ih,
      ihbody, hf.dropMarkers_mapLines]
    split <;> rfl

end Moves

theorem moves_unplaced : Moves Line.unplaced := fun _ => rfl

theorem Outline.text_eq_of_unplaced {a b : Outline} (h : a.unplaced = b.unplaced) :
    a.text = b.text := by
  rw [← moves_unplaced.text_mapLines a, ← moves_unplaced.text_mapLines b]
  exact congrArg Outline.text h

theorem Outline.exports_eq_of_unplaced {a b : Outline} (h : a.unplaced = b.unplaced) :
    a.exports = b.exports := by
  rw [← Outline.exports_mapLines (f := Line.unplaced) (fun _ => rfl) a,
    ← Outline.exports_mapLines (f := Line.unplaced) (fun _ => rfl) b]
  exact congrArg Outline.exports h

/-- Lines that are different from one another can be moved to other places. -/
theorem exists_moves {lines moved : List Line} (hnodup : lines.Nodup)
    (h : moved.map Line.unplaced = lines.map Line.unplaced) :
    ∃ f, Moves f ∧ lines.map f = moved := by
  obtain ⟨f, rfl, hf⟩ := exists_map_eq hnodup (by simpa using congrArg List.length h)
  refine ⟨f, fun line => ?_, rfl⟩
  rw [List.map_map] at h
  by_cases hline : line ∈ lines
  · exact List.map_inj_left.1 h line hline
  · rw [hf line hline]

/-- Lines that are different from one another, and that have an outline, have the same one at other
places, but for the places. -/
theorem Reads.exists_moved {region : Region} {lines moved : List Line} {outline : Outline}
    (h : Reads region lines outline) (hnodup : lines.Nodup)
    (hmoved : moved.map Line.unplaced = lines.map Line.unplaced) :
    ∃ again, Reads region moved again ∧ again.unplaced = outline.unplaced := by
  obtain ⟨f, hf, rfl⟩ := exists_moves hnodup hmoved
  exact ⟨outline.mapLines f, hf.reads h, hf.unplaced_mapLines outline⟩

end PluginBuild.Listing
