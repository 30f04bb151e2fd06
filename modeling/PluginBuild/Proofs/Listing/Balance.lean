import PluginBuild.Proofs.Listing.DocumentOrder
import PluginBuild.Proofs.Listing.Splitting
/-!
# Texts with an outline

A text has an outline if its braces balance: no line closes a brace that no line before it has
opened, and all are closed in the end. There is one gap (`exists_outline_closing`). The header of a
block and its clauses may close braces that the line opening the body opens only afterwards. Apart
from that gap the texts with an outline are those whose braces balance (`exists_outline_iff`).
-/

namespace PluginBuild.Listing

/-- The place between the lines before and after it is in the declaration of a block outside of all
others: its header stands before the place, and the line that opens its body after it. -/
inductive InDeclaration (region : Region) : List Line → List Line → Prop
  | mk {outer clauses more after : List Line} {header opening : Line} (houter : netOf outer = 0)
      (hheader : (region.opens? header.keyword).isSome = true)
      (hopens : Opens header (clauses ++ more ++ [opening]) opening) :
      InDeclaration region (outer ++ header :: clauses) (more ++ opening :: after)

/-- All braces are closed in the end, and before that no more are closed than opened, but for
places in declarations. -/
structure Balances (region : Region) (lines : List Line) : Prop where
  net_eq : netOf lines = 0
  net_nonneg : ∀ before after, lines = before ++ after →
    0 ≤ netOf before ∨ InDeclaration region before after

namespace InDeclaration

variable {region : Region} {before after : List Line}

/-- Lines that close the braces they open may stand before a declaration. -/
theorem prepend {outer : List Line} (h : InDeclaration region before after)
    (houter : netOf outer = 0) : InDeclaration region (outer ++ before) after := by
  cases h with
  | mk hzero hheader hopens =>
    rw [← List.append_assoc]
    exact .mk (by rw [netOf_append, houter, hzero, Int.zero_add]) hheader hopens

/-- The declaration is that of the first line, or it stands after lines that close the braces they
open. -/
theorem cases_header {header : Line} (h : InDeclaration region (header :: before) after) :
    ((region.opens? header.keyword).isSome = true ∧
      ∃ more, (takeDeclaration header (before ++ after)).1 = before ++ more ∧ more ≠ []) ∨
    ∃ outer line clauses, before = outer ++ line :: clauses ∧ netOf (header :: outer) = 0 ∧
      line.goesOn = false ∧
        ∀ inner, netOf inner = 0 → InDeclaration region (inner ++ line :: clauses) after := by
  generalize hlines : header :: before = lines at h
  cases h with
  | @mk outer clauses more after line opening houter hheader hopens =>
    cases outer with
    | nil =>
      obtain ⟨rfl, rfl⟩ := List.cons.inj hlines
      refine .inl ⟨hheader, more ++ [opening], ?_, by simp⟩
      have hsplit : before ++ (more ++ opening :: after) =
          (before ++ more ++ [opening]) ++ after := by simp
      rw [hsplit, hopens.takeDeclaration, List.append_assoc]
    | cons first outer =>
      obtain ⟨rfl, rfl⟩ := List.cons.inj hlines
      exact .inr ⟨outer, line, clauses, rfl, houter, Line.goesOn_of_opens hheader,
        fun inner hinner => .mk hinner hheader hopens⟩

end InDeclaration

/-- Lines without opening braces that close none in all close none at any place. -/
theorem netOf_nonneg_of_opens {before after : List Line}
    (hopens : ∀ line ∈ after, line.opens = 0) (hnet : 0 ≤ netOf (before ++ after)) :
    0 ≤ netOf before := by
  have hle := netOf_nonpos hopens
  rw [netOf_append] at hnet
  omega

/-- A place before the line that opens the body is in the declaration, if the braces do not balance
there. -/
theorem Opens.nonneg_or_inDeclaration {region : Region} {kind : BlockKind} {header opening : Line}
    {clause before after : List Line} (hopens : Opens header clause opening)
    (hkind : region.kindOf header = .ok (some kind)) (hnet : 0 ≤ netOf (header :: clause))
    (hclause : clause = before ++ after) (behind : List Line) :
    0 ≤ netOf (header :: before) ∨ InDeclaration region (header :: before) (after ++ behind) := by
  rcases List.eq_nil_or_concat after with rfl | ⟨more, last, rfl⟩
  · left
    rwa [hclause, List.append_nil] at hnet
  rw [List.concat_eq_append, ← List.append_assoc] at hclause
  right
  cases hopens with
  | atHeader h => simp at hclause
  | @atClause clauses _ hheader hclauses hgoesOn hopening =>
    obtain ⟨rfl, hlast⟩ := List.append_inj' hclause rfl
    obtain rfl : opening = last := by simpa using hlast
    -- Without an opening brace only a keyword makes a line the header of a block.
    have hopener : (region.opens? header.keyword).isSome = true := by
      have hle := Line.net_nonpos hheader
      unfold Region.kindOf at hkind
      split at hkind
      · next found hfound => rw [hfound]; rfl
      · rw [if_neg (by omega : ¬ 0 < header.net)] at hkind
        split at hkind <;> cases hkind
    rw [List.concat_eq_append, List.append_assoc, List.singleton_append]
    have hnone : netOf [] = 0 := rfl
    exact .mk hnone hopener (.atClause hheader hclauses hgoesOn hopening)

namespace HasExtent

variable {region : Region} {kind : BlockKind} {header : Line} {rest : List Line} {e : Extent}

/-- The braces balance at every place of a block outside of its declaration. -/
theorem place_cases (h : HasExtent header rest e) (hkind : region.kindOf header = .ok (some kind))
    {before after : List Line} (hrest : rest = before ++ after) :
    0 ≤ netOf (header :: before) ∨ InDeclaration region (header :: before) after ∨
      ∃ more, before = e.lines ++ more ∧ e.after = more ++ after := by
  have hall := h.eq_append.symm.trans hrest
  rcases List.append_eq_append_iff.1 hall with ⟨more, hbefore, hafter⟩ | ⟨more, hlines, rfl⟩
  · exact .inr (.inr ⟨more, hbefore, hafter⟩)
  rw [← or_assoc]
  left
  have hblock := h.net_eq_zero
  cases h with
  | bare hbody hnet =>
    simp only [Extent.lines, Option.toList_none, List.append_nil] at hlines
    have hmore : ∀ line ∈ more, line.opens = 0 := fun line hline =>
      (hbody.clause_goesOn line (by simp [hlines, hline])).2
    refine .inl (netOf_nonneg_of_opens hmore ?_)
    rw [List.cons_append, ← hlines]
    exact Int.le_of_eq hnet.symm
  | closed hopens hnet =>
    simp only [Extent.lines, Option.toList_none, List.append_nil] at hlines
    exact hopens.nonneg_or_inDeclaration hkind (Int.le_of_eq hnet.symm) hlines _
  | @enclosed clause inner behind opening close hopens hinner hnet =>
    have hpos := hinner.depth_pos
    simp only [Extent.lines, Option.toList_some] at hlines
    rcases List.append_eq_append_iff.1 hlines with ⟨mid, rfl, hmid⟩ | ⟨mid, hclause, rfl⟩
    · left
      by_cases hmore : more = []
      · subst hmore
        simp only [Extent.lines, Option.toList_some, hmid, List.append_nil] at hblock
        exact Int.le_of_eq hblock.symm
      · have hopen := (hinner.of_append hmid hmore).pos
        rw [← List.cons_append, netOf_append]
        omega
    · rw [List.append_assoc]
      exact hopens.nonneg_or_inDeclaration hkind (Int.le_of_lt hpos) hclause _

/-- The braces of a block balance with those of the lines after it. -/
theorem balances (h : HasExtent header rest e) (hkind : region.kindOf header = .ok (some kind))
    (hafter : Balances region e.after) : Balances region (header :: rest) := by
  have hzero := h.net_eq_zero
  refine ⟨?_, fun before after hlines => ?_⟩
  · rw [h.eq_append, ← List.cons_append, netOf_append, hzero, hafter.net_eq, Int.zero_add]
  cases before with
  | nil => exact .inl (Int.le_refl _)
  | cons first before =>
    obtain ⟨rfl, hrest⟩ := List.cons.inj hlines
    rcases h.place_cases hkind hrest with hnonneg | hin | ⟨more, rfl, hmore⟩
    · exact .inl hnonneg
    · exact .inr hin
    rw [← List.cons_append]
    rcases hafter.net_nonneg more after hmore with hnonneg | hin
    · exact .inl (by rwa [netOf_append, hzero, Int.zero_add])
    · exact .inr (hin.prepend hzero)

end HasExtent

/-- Where lines have an outline, their braces balance. -/
theorem Reads.balances {region : Region} {lines : List Line} {outline : Outline}
    (h : Reads region lines outline) : Balances region lines := by
  induction h with
  | nil =>
    refine ⟨rfl, fun before after hlines => .inl ?_⟩
    rw [(List.append_eq_nil_iff.1 hlines.symm).1]
    exact Int.le_refl _
  | @leaf region line rest outline hkind _ ih =>
    have hzero := net_eq_zero_of_kindOf hkind
    refine ⟨by rw [netOf, hzero, ih.net_eq, Int.zero_add], fun before after hlines => ?_⟩
    cases before with
    | nil => exact .inl (Int.le_refl _)
    | cons first before =>
      obtain ⟨rfl, hrest⟩ := List.cons.inj hlines
      rcases ih.net_nonneg before after hrest with hnonneg | hin
      · exact .inl (by rwa [netOf, hzero, Int.zero_add])
      · have hline : netOf [line] = 0 := by rw [netOf, netOf, hzero, Int.zero_add]
        exact .inr (hin.prepend hline)
  | flat hkind hextent _ _ ih => exact hextent.balances hkind ih
  | nested hkind hextent _ _ _ _ ih => exact hextent.balances hkind ih

namespace Balances

variable {region : Region} {header : Line} {rest : List Line}

/-- The first of lines whose braces balance begins a line or a block. -/
theorem exists_kindOf (h : Balances region (header :: rest)) :
    ∃ kind, region.kindOf header = .ok kind := by
  rcases h.net_nonneg [header] rest rfl with hnonneg | hin
  · exact Listing.exists_kindOf (by simpa [netOf] using hnonneg) region
  rcases hin.cases_header with ⟨hopener, -⟩ | ⟨_, _, _, hnil, -⟩
  · obtain ⟨kind, hkind⟩ := Option.isSome_iff_exists.1 hopener
    exact ⟨some kind, by rw [Region.kindOf, hkind]⟩
  · simp at hnil

/-- Behind a line of its own the braces balance as before it. -/
theorem tail (h : Balances region (header :: rest)) (hkind : region.kindOf header = .ok none) :
    Balances region rest := by
  have hzero := net_eq_zero_of_kindOf hkind
  refine ⟨by simpa [netOf, hzero] using h.net_eq, fun before after hlines => ?_⟩
  rcases h.net_nonneg (header :: before) after (by rw [hlines, List.cons_append]) with
    hnonneg | hin
  · exact .inl (by simpa [netOf, hzero] using hnonneg)
  rcases hin.cases_header with ⟨hopener, -⟩ | ⟨outer, line, clauses, rfl, hnet, -, hin⟩
  · obtain ⟨kind, hopens⟩ := Option.isSome_iff_exists.1 hopener
    rw [Region.kindOf, hopens] at hkind
    cases hkind
  · exact .inr (hin outer (by simpa [netOf, hzero] using hnet))

/-- Where the braces balance, as many are opened as closed by the end of a declaration and by any
place in the body. -/
theorem nonneg_of_clause (h : Balances region (header :: rest))
    {clause after mid behind : List Line} (htaken : takeDeclaration header rest = (clause, after))
    (hafter : after = mid ++ behind) (hgoesOn : ∀ line ∈ clause, line.goesOn = true)
    (hmid : ∀ before line more, mid = before ++ line :: more →
      StaysOpen (netOf (header :: clause)) before) :
    0 ≤ netOf (header :: (clause ++ mid)) := by
  have hrest := takeDeclaration_append header rest
  rw [htaken, hafter] at hrest
  dsimp only at hrest
  rcases h.net_nonneg (header :: (clause ++ mid)) behind (by simp [← hrest]) with hnonneg | hin
  · exact hnonneg
  exfalso
  rcases hin.cases_header with
    ⟨-, more, hmore, hne⟩ | ⟨outer, line, clauses, hlines, hnet, hline, -⟩
  · -- The declaration would go on behind its clauses.
    rw [List.append_assoc, hrest, htaken] at hmore
    have hlength := congrArg List.length hmore
    have hpos := List.length_pos_of_ne_nil hne
    simp only [List.length_append] at hlength
    omega
  · rcases append_cons_eq_append hlines.symm with ⟨more, hclause, -⟩ | ⟨more, rfl, hbody⟩
    · rw [hgoesOn line (by simp [hclause])] at hline
      cases hline
    · have hpos := (hmid more line clauses hbody).pos
      rw [← List.cons_append, netOf_append] at hnet
      omega

/-- Where the braces balance, each header has a block. -/
theorem exists_hasExtent (h : Balances region (header :: rest)) : ∃ e, HasExtent header rest e := by
  have hrest := takeDeclaration_append header rest
  have hcases := takeDeclaration_cases header rest
  cases htaken : takeDeclaration header rest with
  | mk clause after =>
  rw [htaken] at hrest hcases
  dsimp only at hrest hcases
  have hclose : ∀ mid behind, after = mid ++ behind → (∀ line ∈ clause, line.goesOn = true) →
      (∀ before line more, mid = before ++ line :: more →
        StaysOpen (netOf (header :: clause)) before) → 0 ≤ netOf (header :: (clause ++ mid)) :=
    fun mid behind hafter hgoesOn hmid => h.nonneg_of_clause htaken hafter hgoesOn hmid
  subst hrest
  have hnet := h.net_eq
  rw [← List.cons_append, netOf_append] at hnet
  rcases hcases with ⟨opening, hopens⟩ | hnone
  · have hdepth := hclose [] after rfl hopens.goesOn (by simp)
    rw [List.append_nil] at hdepth
    by_cases hzero : netOf (header :: clause) = 0
    · exact ⟨_, .closed hopens hzero⟩
    have hpos : 0 < netOf (header :: clause) := by omega
    cases hbody : takeBody? (netOf (header :: clause)) after with
    | none =>
      have hend := (staysOpen_of_takeBody_eq_none hpos hbody).pos
      omega
    | some found =>
      obtain ⟨⟨inner, close, behind⟩, total⟩ := found
      obtain ⟨rfl, hinner, hsum, hle⟩ := (takeBody_eq_some_iff hpos).1 hbody
      dsimp only at hinner hsum
      have hend := hclose (inner ++ [close]) behind (by simp) hopens.goesOn
        fun before line more hmid => hinner.of_append hmid (by simp)
      rw [← List.cons_append, netOf_append, netOf_append] at hend
      simp only [netOf] at hend hsum hle
      exact ⟨_, .enclosed hopens hinner (by simp only [netOf]; omega)⟩
  · have hdepth := hclose [] after rfl
      (fun line hline => (hnone.clause_goesOn line hline).1) (by simp)
    rw [List.append_nil] at hdepth
    exact ⟨_, .bare hnone (Int.le_antisymm hnone.net_nonpos hdepth)⟩

/-- Behind a block the braces balance as before it. -/
theorem after {e : Extent} (h : Balances region (header :: rest))
    (hextent : HasExtent header rest e) : Balances region e.after := by
  have hzero := hextent.net_eq_zero
  have hnet := h.net_eq
  rw [hextent.eq_append, ← List.cons_append, netOf_append, hzero, Int.zero_add] at hnet
  refine ⟨hnet, fun before after hlines => ?_⟩
  have hrest : rest = e.lines ++ before ++ after := by
    rw [List.append_assoc, ← hlines, ← hextent.eq_append]
  rcases h.net_nonneg (header :: (e.lines ++ before)) after (by rw [hrest, List.cons_append]) with
    hnonneg | hin
  · left
    rwa [← List.cons_append, netOf_append, hzero, Int.zero_add] at hnonneg
  rcases hin.cases_header with
    ⟨-, more, hmore, hne⟩ | ⟨outer, line, clauses, hsplit, hnet', hline, hin⟩
  · -- The declaration of the block would go on behind the block.
    rw [← hrest, hextent.takeDeclaration_eq] at hmore
    have hlength := congrArg List.length hmore
    have hpos := List.length_pos_of_ne_nil hne
    simp only [Extent.lines, List.length_append] at hlength
    omega
  · have hrest' : rest = outer ++ line :: (clauses ++ after) := by simp [hrest, hsplit]
    obtain ⟨more, rfl, -, hmore, -⟩ := hextent.split hrest' hnet' hline
    rw [List.append_assoc, List.append_cancel_left_eq] at hsplit
    rw [hsplit]
    exact .inr (hin more hmore)

/-- Lines whose braces balance have an outline. -/
theorem exists_reads {lines : List Line} (h : Balances region lines) :
    ∃ outline, Reads region lines outline := by
  match lines with
  | [] => exact ⟨.nil, .nil⟩
  | line :: rest =>
    obtain ⟨kind, hkind⟩ := h.exists_kindOf
    cases kind with
    | none =>
      obtain ⟨outline, hrest⟩ := (h.tail hkind).exists_reads
      exact ⟨_, .leaf hkind hrest⟩
    | some kind =>
      obtain ⟨e, hextent⟩ := h.exists_hasExtent
      have hafterLt := length_after_le (hextent.extent_eq_ok kind)
      obtain ⟨outline, hafter⟩ := (h.after hextent).exists_reads
      cases hregion : e.region? kind line.keyword with
      | none => exact ⟨_, .flat hkind hextent hregion hafter⟩
      | some within =>
        -- The brace around a body is open throughout, so that the body has no gap.
        obtain ⟨_, _, -, -, -, hinner, hzero, -⟩ :=
          hextent.bounds_of_delimited (Extent.delimited_of_region hregion)
        obtain ⟨inner, hinner⟩ := Listing.exists_reads within e.inner hinner hzero
        exact ⟨_, .nested hkind hextent hregion hinner hafter⟩
termination_by lines.length

end Balances

/-- The texts with an outline are those that can be cut into lines and whose braces balance: all are
closed in the end, and after no line have more been closed than opened, unless the line belongs to a
declaration outside of all blocks, before the line that opens its body. -/
theorem exists_outline_iff (text : List Char) :
    (∃ outline, Outline.ofText text = .ok outline) ↔
      ∃ lines, logicalLines text = .ok lines ∧ Balances .module lines := by
  constructor
  · rintro ⟨outline, houtline⟩
    obtain ⟨lines, hlines, hreads⟩ := ofText_eq_ok_iff.1 houtline
    exact ⟨lines, hlines, hreads.balances⟩
  · rintro ⟨lines, hlines, hbalances⟩
    obtain ⟨outline, hreads⟩ := hbalances.exists_reads
    exact ⟨outline, ofText_eq_ok_iff.2 ⟨lines, hlines, hreads⟩⟩

/-- The header of a type closes a brace before the next line opens the first. -/
def closingListing : List Char := ".class A \x7d\n\x7b\n".toList

/-- A text can have an outline although a line closes a brace that none before it has opened. -/
theorem exists_outline_closing :
    ∃ outline lines before after, Outline.ofText closingListing = .ok outline ∧
      logicalLines closingListing = .ok lines ∧ lines = before ++ after ∧ netOf before < 0 := by
  have houtline : (Outline.ofText closingListing).toOption.isSome = true := by decide +kernel
  have hlines : (logicalLines closingListing).map (netOf <| ·.take 1) = .ok (-1) := by
    decide +kernel
  obtain ⟨lines, hlines, hnet⟩ := exists_ok_of_map_eq_ok hlines
  cases h : Outline.ofText closingListing with
  | error malformed =>
    rw [h] at houtline
    cases houtline
  | ok outline =>
    refine ⟨outline, lines, lines.take 1, lines.drop 1, rfl, hlines, ?_, ?_⟩
    · rw [List.take_append_drop]
    · rw [hnet]
      decide

end PluginBuild.Listing
