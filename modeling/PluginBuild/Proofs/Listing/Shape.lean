import Mathlib.Algebra.GroupWithZero.Nat
import PluginBuild.Proofs.Listing.Splitting
/-!
# The shape of blocks

What every block of an outline is like: how its braces stand (`BlockBraces`), and which blocks it
may have in it (`Block.WellShaped`). The first is read off the extent of the block, the second off
the region that its body is read in.
-/

namespace PluginBuild.Listing

/-- The header of a block and the lines after it. -/
def Block.lines (block : Block) : List Line := block.header :: block.body.lines

/-- How the braces of a block stand. Either no line has one; or, from the first line that opens one
on, a brace is open after every line before the last, and none is after the last. -/
inductive BlockBraces : List Line → Prop
  | none {lines : List Line} (hlines : ∀ line ∈ lines, line.opens = 0 ∧ line.closes = 0) :
      BlockBraces lines
  | body {before inner : List Line} {opening : Line} (hbefore : ∀ line ∈ before, line.opens = 0)
      (hopening : 0 < opening.opens)
      (hopen : ∀ passed rest, inner = passed ++ rest → rest ≠ [] →
        0 < netOf (before ++ opening :: passed))
      (hclosed : netOf (before ++ opening :: inner) = 0) :
      BlockBraces (before ++ opening :: inner)

/-- How the braces of a block stand, and which blocks it has in it. -/
structure Block.WellShaped (block : Block) : Prop where
  opens_eq_closes : (block.lines.map Line.opens).sum = (block.lines.map Line.closes).sum
  braces : BlockBraces block.lines
  /-- Methods, assemblies and data have no blocks in them. -/
  blocks_eq_nil : block.kind = .method ∨ block.kind = .assembly ∨ block.kind = .data →
    block.body.blocks = []
  blocks_of_type : block.kind = .type → ∀ child ∈ block.body.blocks,
    child.kind = .type ∨ child.kind = .method ∨ child.kind = .other
  /-- Of the other blocks only namespaces have blocks in them. -/
  keyword_of_other : block.kind = .other → block.body.blocks ≠ [] →
    block.header.keyword = ".namespace"
  /-- Of all blocks only namespaces have assemblies and data in them. -/
  namespace_of_child : ∀ child ∈ block.body.blocks, child.kind = .assembly ∨ child.kind = .data →
    block.kind = .other ∧ block.header.keyword = ".namespace"

/-! ### Braces -/

theorem netOf_eq_sub (lines : List Line) :
    netOf lines = (lines.map Line.opens).sum - (lines.map Line.closes).sum := by
  induction lines with
  | nil => rfl
  | cons line rest ih =>
    rw [netOf, ih, Line.net, List.map_cons, List.map_cons, List.sum_cons, List.sum_cons]
    omega

/-- Lines that open no brace and balance close none. -/
theorem closes_eq_zero {lines : List Line} (hopens : ∀ line ∈ lines, line.opens = 0)
    (hnet : netOf lines = 0) : ∀ line ∈ lines, line.closes = 0 := by
  induction lines with
  | nil => simp
  | cons line rest ih =>
    obtain ⟨hline, hrest⟩ := List.forall_mem_cons.1 hopens
    have hle := netOf_nonpos hrest
    rw [netOf, Line.net, hline] at hnet
    exact List.forall_mem_cons.2 ⟨by omega, ih hrest (by omega)⟩

/-- The line that opens a body is the first with an opening brace. -/
theorem Opens.exists_before {header opening : Line} {clause : List Line}
    (h : Opens header clause opening) :
    ∃ before, header :: clause = before ++ [opening] ∧ (∀ line ∈ before, line.opens = 0) ∧
      0 < opening.opens := by
  cases h with
  | atHeader h => exact ⟨[], rfl, by simp, h⟩
  | @atClause clauses _ hheader hclauses _ hopens =>
    exact ⟨header :: clauses, rfl,
      List.forall_mem_cons.2 ⟨hheader, fun line hline => (hclauses line hline).2⟩, hopens⟩

/-- How the braces of a block stand is known by its extent. -/
theorem HasExtent.blockBraces {header : Line} {rest : List Line} {e : Extent}
    (h : HasExtent header rest e) : BlockBraces (header :: e.lines) := by
  have hzero := h.net_eq_zero
  cases h with
  | @bare clause _ hbody _ =>
    simp only [Extent.lines, Option.toList_none, List.append_nil] at hzero ⊢
    have hopens : ∀ line ∈ header :: clause, line.opens = 0 := List.forall_mem_cons.2
      ⟨hbody.header_opens, fun line hline => (hbody.clause_goesOn line hline).2⟩
    exact .none fun line hline => ⟨hopens line hline, closes_eq_zero hopens hzero line hline⟩
  | @closed clause _ opening hopens _ =>
    obtain ⟨before, hbefore, hnone, hopening⟩ := hopens.exists_before
    simp only [Extent.lines, Option.toList_none, List.append_nil, hbefore] at hzero ⊢
    exact .body hnone hopening
      (fun _ _ hsplit hrest => absurd (List.append_eq_nil_iff.1 hsplit.symm).2 hrest) hzero
  | @enclosed clause inner _ opening close hopens hinner _ =>
    obtain ⟨before, hbefore, hnone, hopening⟩ := hopens.exists_before
    have hlines (mid : List Line) : header :: (clause ++ mid) = before ++ opening :: mid := by
      rw [← List.cons_append, hbefore, List.append_assoc, List.singleton_append]
    simp only [Extent.lines, Option.toList_some, hlines] at hzero ⊢
    refine .body hnone hopening (fun passed rest hsplit hrest => ?_) hzero
    have hopen := (hinner.of_append hsplit hrest).pos
    rwa [← netOf_append, List.cons_append, hlines] at hopen

/-! ### Blocks in blocks -/

/-- The blocks outside of other blocks begin in the region in which the outline is read. -/
theorem Reads.kindOf_of_mem_blocks {region : Region} {lines : List Line} {outline : Outline}
    {block : Block} (h : Reads region lines outline) (hblock : block ∈ outline.blocks) :
    region.kindOf block.header = .ok (some block.kind) := by
  induction h with
  | nil => cases hblock
  | leaf _ _ ih => exact ih hblock
  | flat hkind _ _ _ ih =>
    rcases List.mem_cons.1 hblock with rfl | hblock
    · exact hkind
    · exact ih hblock
  | nested hkind _ _ _ _ _ ih =>
    rcases List.mem_cons.1 hblock with rfl | hblock
    · exact hkind
    · exact ih hblock

theorem Region.kindOf_type_cases {header : Line} {kind : BlockKind}
    (h : Region.type.kindOf header = .ok (some kind)) :
    kind = .type ∨ kind = .method ∨ kind = .other := by
  rw [kindOf] at h
  split at h
  · next found hfound =>
    cases h
    unfold opens? at hfound
    split at hfound <;> simp_all
  · split at h
    · cases h
    · split at h
      · cases h
        simp
      · cases h

/-- Only the bodies of types and namespaces are read further. -/
theorem bodyRegion?_cases {kind : BlockKind} {keyword : String} {within : Region}
    (h : bodyRegion? kind keyword = some within) :
    kind = .type ∧ within = .type ∨ kind = .other ∧ keyword = ".namespace" := by
  unfold bodyRegion? at h
  split at h
  · cases h
    exact .inl ⟨rfl, rfl⟩
  · split at h
    · next hkeyword => exact .inr ⟨rfl, hkeyword⟩
    · cases h
  · cases h

/-- Only types and namespaces have blocks in them, and types only some. -/
theorem Reads.child_cases {region : Region} {lines : List Line} {outline : Outline}
    {block child : Block} (h : Reads region lines outline) (hblock : block ∈ outline.allBlocks)
    (hchild : child ∈ block.body.blocks) :
    block.kind = .type ∧ (child.kind = .type ∨ child.kind = .method ∨ child.kind = .other) ∨
      block.kind = .other ∧ block.header.keyword = ".namespace" := by
  obtain ⟨rest, e, inner, -, hbody, hinterior⟩ := h.exists_interior hblock
  rw [hbody, Extent.blocks_around] at hchild
  cases hinterior with
  | flat =>
    rw [Outline.blocks_ofLines] at hchild
    cases hchild
  | nested hregion hinner =>
    have hkind := hinner.kindOf_of_mem_blocks hchild
    rw [Extent.region?, if_pos (Extent.delimited_of_region hregion)] at hregion
    rcases bodyRegion?_cases hregion with ⟨htype, rfl⟩ | hnamespace
    · exact .inl ⟨htype, Region.kindOf_type_cases hkind⟩
    · exact .inr hnamespace

/-- The lines of a block are its header and those of its extent. -/
theorem Reads.exists_lines_eq {region : Region} {lines : List Line} {outline : Outline}
    {block : Block} (h : Reads region lines outline) (hblock : block ∈ outline.allBlocks) :
    ∃ rest e, HasExtent block.header rest e ∧ block.lines = block.header :: e.lines := by
  obtain ⟨rest, e, inner, hextent, hbody, hlines⟩ := h.exists_hasExtent hblock
  exact ⟨rest, e, hextent, by rw [Block.lines, hbody, Extent.lines_around, hlines, Extent.lines]⟩

/-- Every block of an outline is well shaped. -/
theorem Reads.wellShaped {region : Region} {lines : List Line} {outline : Outline} {block : Block}
    (h : Reads region lines outline) (hblock : block ∈ outline.allBlocks) : block.WellShaped where
  opens_eq_closes := by
    obtain ⟨rest, e, hextent, hlines⟩ := h.exists_lines_eq hblock
    have hzero := hextent.net_eq_zero
    rw [← hlines, netOf_eq_sub] at hzero
    omega
  braces := by
    obtain ⟨rest, e, hextent, hlines⟩ := h.exists_lines_eq hblock
    rw [hlines]
    exact hextent.blockBraces
  blocks_eq_nil hkind := by
    refine List.eq_nil_iff_forall_not_mem.2 fun child hchild => ?_
    rcases h.child_cases hblock hchild with ⟨htype, -⟩ | ⟨hother, -⟩
    · simp [htype] at hkind
    · simp [hother] at hkind
  blocks_of_type hkind child hchild := by
    rcases h.child_cases hblock hchild with ⟨-, hchildKind⟩ | ⟨hother, -⟩
    · exact hchildKind
    · cases hkind.symm.trans hother
  keyword_of_other hkind hne := by
    obtain ⟨child, hchild⟩ := List.exists_mem_of_ne_nil _ hne
    rcases h.child_cases hblock hchild with ⟨htype, -⟩ | ⟨-, hkeyword⟩
    · cases hkind.symm.trans htype
    · exact hkeyword
  namespace_of_child child hchild hkind := by
    rcases h.child_cases hblock hchild with ⟨-, hother⟩ | hnamespace
    · rcases hother with hchildKind | hchildKind | hchildKind <;> simp [hchildKind] at hkind
    · exact hnamespace

/-- The blocks in the outline of a text are well shaped, and assemblies and data stand outside of
all blocks or directly in a namespace. -/
theorem blocks_wellShaped {text : List Char} {outline : Outline}
    (h : Outline.ofText text = .ok outline) :
    (∀ block ∈ outline.allBlocks, block.WellShaped) ∧
    ∀ block ∈ outline.allBlocks, block.kind = .assembly ∨ block.kind = .data →
      block ∈ outline.blocks ∨ ∃ parent ∈ outline.allBlocks, parent.kind = .other ∧
        parent.header.keyword = ".namespace" ∧ block ∈ parent.body.blocks := by
  obtain ⟨lines, -, hreads⟩ := ofText_eq_ok_iff.1 h
  refine ⟨fun block hblock => hreads.wellShaped hblock, fun block hblock hkind => ?_⟩
  rcases Outline.mem_blocks_or_exists_parent hblock with htop | ⟨parent, hparent, hchild⟩
  · exact .inl htop
  · obtain ⟨hother, hkeyword⟩ := (hreads.wellShaped hparent).namespace_of_child block hchild hkind
    exact .inr ⟨parent, hparent, hother, hkeyword, hchild⟩

/-- A namespace with data and with a class that has a property, a method and braces besides. -/
def nestedListing : List Char :=
  (".namespace N\n\x7b\n  .data D = int32(0)\n  .class C\n         extends B\n  \x7b\n" ++
    "    .property int32 P()\n    \x7b\n    \x7d\n    .method void M()\n    \x7b\n      ret\n" ++
    "    \x7d\n    .other \x7b\n    \x7d\n  \x7d\n\x7d\n").toList

/-- The six blocks of the nested listing are well shaped. -/
theorem blocks_wellShaped_nestedListing :
    ∃ outline, Outline.ofText nestedListing = .ok outline ∧
      outline.allBlocks.map Block.kind = [.other, .data, .type, .other, .method, .other] ∧
      ∀ block ∈ outline.allBlocks, block.WellShaped := by
  have hkinds : (Outline.ofText nestedListing).map (·.allBlocks.map Block.kind) =
      .ok [.other, .data, .type, .other, .method, .other] := by
    decide +kernel
  obtain ⟨outline, houtline, hkinds⟩ := exists_ok_of_map_eq_ok hkinds
  exact ⟨outline, houtline, hkinds, (blocks_wellShaped houtline).1⟩

end PluginBuild.Listing
