import PluginBuild.Proofs.Listing.DocumentOrder
/-!
# The bodies of blocks

Every block of an outline has an extent, and the outline of its body is read from the lines inside
(`Reads.exists_interior`). A body whose bounds have no brace besides is always read further: its
lines have an outline, so that it is never for what they are that it stays without blocks
(`delimited_body_read`).
-/

namespace PluginBuild.Listing

namespace Outline

theorem blocks_append (a b : Outline) : (a.append b).blocks = a.blocks ++ b.blocks := by
  induction a with
  | nil => rfl
  | leaf line rest ih => simp [append, blocks, ih]
  | block kind header method body rest _ ih => simp [append, blocks, ih]

theorem blocks_ofLines (lines : List Line) : (ofLines lines).blocks = [] := by
  induction lines with
  | nil => rfl
  | cons line rest ih => rw [ofLines, blocks, ih]

theorem allBlocks_append (a b : Outline) :
    (a.append b).allBlocks = a.allBlocks ++ b.allBlocks := by
  induction a with
  | nil => rfl
  | leaf line rest ih => simp [append, allBlocks, ih]
  | block kind header method body rest _ ih => simp [append, allBlocks, ih]

theorem allBlocks_ofLines (lines : List Line) : (ofLines lines).allBlocks = [] := by
  induction lines with
  | nil => rfl
  | cons line rest ih => rw [ofLines, allBlocks, ih]

/-- A block is outside of other blocks or in the body of one. -/
theorem mem_blocks_or_exists_parent {outline : Outline} {block : Block}
    (h : block ∈ outline.allBlocks) :
    block ∈ outline.blocks ∨ ∃ parent ∈ outline.allBlocks, block ∈ parent.body.blocks := by
  induction outline with
  | nil => cases h
  | leaf line rest ih => exact ih h
  | block kind header method body rest ihbody ih =>
    rcases List.mem_cons.1 h with rfl | h
    · exact .inl List.mem_cons_self
    refine (List.mem_append.1 h).elim (fun h => .inr ?_) (fun h => ?_)
    · rcases ihbody h with hchild | ⟨parent, hparent, hchild⟩
      · exact ⟨_, List.mem_cons_self, hchild⟩
      · exact ⟨parent, List.mem_cons_of_mem _ (List.mem_append_left _ hparent), hchild⟩
    · rcases ih h with htop | ⟨parent, hparent, hchild⟩
      · exact .inl (List.mem_cons_of_mem _ htop)
      · exact .inr ⟨parent, List.mem_cons_of_mem _ (List.mem_append_right _ hparent), hchild⟩

end Outline

namespace Extent

theorem blocks_around (e : Extent) (inner : Outline) : (e.around inner).blocks = inner.blocks := by
  rw [around, Outline.blocks_append, Outline.blocks_append, Outline.blocks_ofLines,
    Outline.blocks_ofLines, List.nil_append, List.append_nil]

theorem allBlocks_around (e : Extent) (inner : Outline) :
    (e.around inner).allBlocks = inner.allBlocks := by
  rw [around, Outline.allBlocks_append, Outline.allBlocks_append, Outline.allBlocks_ofLines,
    Outline.allBlocks_ofLines, List.nil_append, List.append_nil]

/-- The outline of the lines in a body: one without blocks, or one that is read further. -/
inductive HasInterior (e : Extent) (kind : BlockKind) (keyword : String) : Outline → Prop
  | flat (hregion : e.region? kind keyword = none) : HasInterior e kind keyword (.ofLines e.inner)
  | nested {within : Region} {inner : Outline} (hregion : e.region? kind keyword = some within)
      (hinner : Reads within e.inner inner) : HasInterior e kind keyword inner

theorem HasInterior.lines_eq {e : Extent} {kind : BlockKind} {keyword : String} {inner : Outline}
    (h : e.HasInterior kind keyword inner) : inner.lines = e.inner := by
  cases h with
  | flat => exact Outline.lines_ofLines _
  | nested _ hinner => exact hinner.lines_eq

end Extent

/-- The blocks of an outline have extents, interiors read from the lines in them, and what their
declarations state. -/
theorem Reads.exists_block {region : Region} {lines : List Line} {outline : Outline}
    {block : Block} (h : Reads region lines outline) (hblock : block ∈ outline.allBlocks) :
    ∃ rest e inner, HasExtent block.header rest e ∧ block.body = e.around inner ∧
      e.HasInterior block.kind block.header.keyword inner ∧
      block.method =
        if block.kind = .method then MethodHeader.ofDeclaration? block.declaration else none := by
  induction h with
  | nil => cases hblock
  | leaf _ _ ih => exact ih hblock
  | flat _ hextent hregion _ ih =>
    rw [Outline.ofBlock, Outline.allBlocks, Extent.allBlocks_around, Outline.allBlocks_ofLines,
      List.nil_append] at hblock
    rcases List.mem_cons.1 hblock with rfl | hblock
    · exact ⟨_, _, _, hextent, rfl, .flat hregion, rfl⟩
    · exact ih hblock
  | nested _ hextent hregion hinner _ ihinner ih =>
    rw [Outline.ofBlock, Outline.allBlocks, Extent.allBlocks_around] at hblock
    rcases List.mem_cons.1 hblock with rfl | hblock
    · exact ⟨_, _, _, hextent, rfl, .nested hregion hinner, rfl⟩
    · rcases List.mem_append.1 hblock with hblock | hblock
      · exact ihinner hblock
      · exact ih hblock

theorem Reads.exists_interior {region : Region} {lines : List Line} {outline : Outline}
    {block : Block} (h : Reads region lines outline) (hblock : block ∈ outline.allBlocks) :
    ∃ rest e inner, HasExtent block.header rest e ∧ block.body = e.around inner ∧
      e.HasInterior block.kind block.header.keyword inner := by
  obtain ⟨rest, e, inner, hextent, hbody, hinterior, -⟩ := h.exists_block hblock
  exact ⟨rest, e, inner, hextent, hbody, hinterior⟩

/-- The blocks of an outline have the extents that their lines give them. -/
theorem Reads.exists_hasExtent {region : Region} {lines : List Line} {outline : Outline}
    {block : Block} (h : Reads region lines outline) (hblock : block ∈ outline.allBlocks) :
    ∃ rest e inner, HasExtent block.header rest e ∧ block.body = e.around inner ∧
      inner.lines = e.inner := by
  obtain ⟨rest, e, inner, hextent, hbody, hinterior⟩ := h.exists_interior hblock
  exact ⟨rest, e, inner, hextent, hbody, hinterior.lines_eq⟩

/-! ### Bodies that are read further -/

/-- The line that opens the body opens one brace more than it closes, and the line that closes the
body closes one more than it opens. -/
def Extent.IsDelimited (e : Extent) (header : Line) : Prop :=
  ∃ opening close, openingLine? header e.clause = some opening ∧ opening.net = 1 ∧
    e.close = some close ∧ close.net = -1

theorem HasExtent.delimited_iff {header : Line} {rest : List Line} {e : Extent}
    (h : HasExtent header rest e) : e.delimited = true ↔ e.IsDelimited header := by
  cases h with
  | bare => simp [Extent.IsDelimited]
  | closed => simp [Extent.IsDelimited]
  | enclosed hopens => simp [Extent.IsDelimited, hopens.openingLine]

/-- The lines in a body whose bounds have no brace besides have an outline in any region. -/
theorem exists_outlineOf_inner {kind : BlockKind} {header : Line} {rest : List Line} {e : Extent}
    (hextent : extent kind header rest = .ok e) (hdelimited : e.IsDelimited header)
    (within : Region) : ∃ inner, outlineOf within e.inner = .ok inner := by
  have hblock := hasExtent_of_extent hextent
  obtain ⟨_, _, -, -, -, hopen, hzero, -⟩ :=
    hblock.bounds_of_delimited (hblock.delimited_iff.2 hdelimited)
  obtain ⟨inner, hinner⟩ := exists_reads within e.inner hopen hzero
  exact ⟨inner, hinner.outlineOf_eq_ok⟩

/-- A body whose bounds have no brace besides is read further where its block's kind says so, and
this succeeds on any lines. So in the outline of a text, the body of a type or a namespace has the
outline of the lines inside, or one of its bounds has another brace. -/
theorem delimited_body_read :
    (∀ kind header rest e within, extent kind header rest = .ok e → e.IsDelimited header →
      bodyRegion? kind header.keyword = some within →
        ∃ inner, outlineOf within e.inner = .ok inner) ∧
    ∀ text outline, Outline.ofText text = .ok outline → ∀ block ∈ outline.allBlocks, ∀ within,
      bodyRegion? block.kind block.header.keyword = some within →
        ∃ rest e inner, extent block.kind block.header rest = .ok e ∧
          block.body = e.around inner ∧
          (e.IsDelimited block.header ∧ outlineOf within e.inner = .ok inner ∨
            ¬ e.IsDelimited block.header ∧ inner = .ofLines e.inner) := by
  refine ⟨fun kind header rest e within hextent hdelimited _ =>
    exists_outlineOf_inner hextent hdelimited within, ?_⟩
  intro text outline houtline block hblock within hwithin
  obtain ⟨lines, -, hreads⟩ := ofText_eq_ok_iff.1 houtline
  obtain ⟨rest, e, inner, hextent, hbody, hinterior⟩ := hreads.exists_interior hblock
  refine ⟨rest, e, inner, hextent.extent_eq_ok _, hbody, ?_⟩
  rw [← hextent.delimited_iff]
  cases hinterior with
  | flat hregion =>
    rw [Extent.region?, hwithin] at hregion
    exact .inr ⟨fun hdelimited => by simp [hdelimited] at hregion, rfl⟩
  | nested hregion hinner =>
    have hdelimited := Extent.delimited_of_region hregion
    rw [Extent.region?, if_pos hdelimited, hwithin] at hregion
    cases hregion
    exact .inl ⟨hdelimited, hinner.outlineOf_eq_ok⟩

/-- The body of the type in the sample listing has bounds without a brace besides, and is read
further. -/
theorem delimited_body_read_sampleListing :
    ∃ outline block rest e inner, Outline.ofText sampleListing = .ok outline ∧
      block ∈ outline.allBlocks ∧ bodyRegion? block.kind block.header.keyword = some .type ∧
      extent block.kind block.header rest = .ok e ∧ e.IsDelimited block.header ∧
      outlineOf .type e.inner = .ok inner ∧ block.body = e.around inner := by
  have hfirst : (Outline.ofText sampleListing).map (fun outline =>
      outline.allBlocks.head?.map fun block =>
        (bodyRegion? block.kind block.header.keyword, block.body.blocks.length)) =
      .ok (some (some .type, 1)) := by
    decide +kernel
  obtain ⟨outline, houtline, hfirst⟩ := exists_ok_of_map_eq_ok hfirst
  obtain ⟨block, hblock, heq⟩ := Option.map_eq_some_iff.1 hfirst
  obtain ⟨hwithin, hchildren⟩ := Prod.mk.inj heq
  have hmem := List.mem_of_head? hblock
  obtain ⟨hread, hblocks⟩ := delimited_body_read
  obtain ⟨rest, e, inner, hextent, hbody, hcases⟩ :=
    hblocks sampleListing outline houtline block hmem .type hwithin
  rcases hcases with ⟨hdelimited, hinner⟩ | ⟨-, rfl⟩
  · obtain ⟨other, hother⟩ := hread _ _ _ _ _ hextent hdelimited hwithin
    cases hinner.symm.trans hother
    exact ⟨outline, block, rest, e, inner, houtline, hmem, hwithin, hextent, hdelimited, hinner,
      hbody⟩
  · rw [hbody, Extent.blocks_around, Outline.blocks_ofLines] at hchildren
    cases hchildren

end PluginBuild.Listing
