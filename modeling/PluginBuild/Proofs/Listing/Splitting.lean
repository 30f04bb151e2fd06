import PluginBuild.Proofs.Listing.Rereading
/-!
# Cutting an outline at a line

Where as many braces have been closed as opened, a line that does not go on with a declaration
begins the outline of the lines from it (`Reads.split`). Within a block such a line stands in the
body (`HasExtent.opens_of_split`).
-/

namespace PluginBuild.Listing

/-- An element before the end of one list put together with another is in the one or the other. -/
theorem append_cons_eq_append {α : Type} {a b c d : List α} {x : α}
    (h : a ++ x :: b = c ++ d) :
    (∃ more, c = a ++ x :: more ∧ b = more ++ d) ∨ ∃ more, a = c ++ more ∧ d = more ++ x :: b := by
  rcases List.append_eq_append_iff.1 h with ⟨more, hc, hd⟩ | ⟨more, ha, hd⟩
  · cases more with
    | nil => exact .inr ⟨[], by simpa using hc.symm, hd.symm⟩
    | cons y more =>
      obtain ⟨rfl, hb⟩ := List.cons.inj hd
      exact .inl ⟨more, hc, hb⟩
  · exact .inr ⟨more, ha, hd⟩

/-- As far as a line before the one that closes the body, the body is open. -/
theorem StaysOpen.of_append {depth : Int} {inner before after : List Line} {close : Line}
    (h : StaysOpen depth inner) (hlines : inner ++ [close] = before ++ after)
    (hafter : after ≠ []) : StaysOpen depth before := by
  cases after with
  | nil => exact absurd rfl hafter
  | cons line after =>
    rcases append_cons_eq_append hlines.symm with ⟨more, rfl, -⟩ | ⟨more, rfl, hclose⟩
    · exact (staysOpen_append.1 h).1
    · cases more with
      | nil => simpa using h
      | cons other more => simp at hclose

namespace HasExtent

variable {header : Line} {rest : List Line} {e : Extent}

theorem unique {e' : Extent} (h : HasExtent header rest e) (h' : HasExtent header rest e') :
    e = e' :=
  Except.ok.inj ((h.extent_eq_ok .other).symm.trans (h'.extent_eq_ok .other))

/-- In a block, a line that does not go on with the declaration stands in the body: a brace is
open before it. -/
theorem opens_of_split (h : HasExtent header rest e) {before after : List Line} {line : Line}
    (hlines : e.lines = before ++ line :: after) (hline : line.goesOn = false) :
    ∃ opening mid, Opens header e.clause opening ∧ before = e.clause ++ mid ∧
      StaysOpen (netOf (header :: e.clause)) mid := by
  have hclause : ∀ more, e.clause ≠ before ++ line :: more := by
    intro more hmore
    have hgoesOn := h.clause_goesOn line (by simp [hmore])
    rw [hline] at hgoesOn
    cases hgoesOn
  rcases append_cons_eq_append hlines.symm with ⟨more, hmore, -⟩ | ⟨mid, rfl, hbody⟩
  · exact absurd hmore (hclause more)
  cases h with
  | bare => simp at hbody
  | closed => simp at hbody
  | @enclosed clause inner behind opening close hopens hinner hnet =>
    exact ⟨opening, mid, hopens, rfl, hinner.of_append hbody (by simp)⟩

/-- A block goes on as long as a brace is open, and has the line after that, too. -/
theorem exists_lines_of_staysOpen (h : HasExtent header rest e) {clause mid after : List Line}
    {opening line : Line} (hrest : rest = clause ++ (mid ++ line :: after))
    (hopens : Opens header clause opening) (hmid : StaysOpen (netOf (header :: clause)) mid) :
    ∃ more, e.lines = clause ++ (mid ++ line :: more) := by
  have htaken : takeDeclaration header rest = (clause, mid ++ line :: after) := by
    rw [hrest, hopens.takeDeclaration]
  cases h with
  | @bare clause' behind hbody hnet =>
    rw [hbody.takeDeclaration] at htaken
    obtain ⟨rfl, -⟩ := Prod.mk.inj htaken
    have hpos := hmid.depth_pos
    omega
  | @closed clause' behind opening' hopens' hnet =>
    rw [hopens'.takeDeclaration] at htaken
    obtain ⟨rfl, -⟩ := Prod.mk.inj htaken
    have hpos := hmid.depth_pos
    omega
  | @enclosed clause' inner behind opening' close hopens' hinner hnet =>
    rw [hopens'.takeDeclaration] at htaken
    obtain ⟨rfl, hbody⟩ := Prod.mk.inj htaken
    have hlines : (inner ++ [close]) ++ behind = mid ++ line :: after := by
      rw [List.append_assoc]
      exact hbody
    rcases append_cons_eq_append hlines.symm with ⟨more, hmore, -⟩ | ⟨more, rfl, -⟩
    · exact ⟨more, congrArg (clause' ++ ·) hmore⟩
    · -- The brace would still be open after the line that closes the body.
      have hpos := (staysOpen_append.1 hmid).1.pos
      rw [netOf_append] at hpos
      simp only [netOf] at hpos hnet
      omega

/-- Where as many braces are closed as opened, a line that does not go on with a declaration stands
after the block. -/
theorem split (h : HasExtent header rest e) {before after : List Line} {line : Line}
    (hrest : rest = before ++ line :: after) (hnet : netOf (header :: before) = 0)
    (hline : line.goesOn = false) :
    ∃ more, before = e.lines ++ more ∧ e.after = more ++ line :: after ∧ netOf more = 0 ∧
      HasExtent header before (e.withBody e.inner more) := by
  rw [h.eq_append] at hrest
  rcases append_cons_eq_append hrest.symm with ⟨more, hlines, -⟩ | ⟨more, rfl, hafter⟩
  · obtain ⟨opening, mid, -, rfl, hmid⟩ := h.opens_of_split hlines hline
    have hpos := hmid.pos
    rw [← List.cons_append, netOf_append] at hnet
    omega
  · rw [← List.cons_append, netOf_append, h.net_eq_zero, Int.zero_add] at hnet
    refine ⟨more, rfl, hafter, hnet, ?_⟩
    rw [Extent.lines, List.append_assoc, List.append_assoc]
    refine h.thinned (.refl e.inner) fun other hother => ?_
    rw [hafter]
    cases more with
    | nil => cases hother
    | cons first more => exact hother

end HasExtent

/-- The header of a block has an extent, and the outline begins with the block. -/
theorem Reads.block_inv {region : Region} {kind : BlockKind} {header : Line} {rest : List Line}
    {outline : Outline} (h : Reads region (header :: rest) outline)
    (hkind : region.kindOf header = .ok (some kind)) :
    ∃ e inner after, HasExtent header rest e ∧
      outline = .ofBlock kind header (e.around inner) after ∧
      (e.region? kind header.keyword = none → inner = .ofLines e.inner) ∧
      ∀ within, e.region? kind header.keyword = some within → Reads within e.inner inner := by
  cases h with
  | leaf hkind' _ =>
    rw [hkind] at hkind'
    cases hkind'
  | flat hkind' hextent hregion _ =>
    rw [hkind] at hkind'
    cases hkind'
    exact ⟨_, _, _, hextent, rfl, fun _ => rfl, fun within hwithin => by
      rw [hregion] at hwithin
      cases hwithin⟩
  | nested hkind' hextent hregion hinner _ =>
    rw [hkind] at hkind'
    cases hkind'
    refine ⟨_, _, _, hextent, rfl, fun hnone => ?_, fun within hwithin => ?_⟩
    · rw [hregion] at hnone
      cases hnone
    · rw [hregion] at hwithin
      cases hwithin
      exact hinner

/-- Where as many braces are closed as opened, a line that does not go on with a declaration begins
the outline of the lines from it. -/
theorem Reads.split {region : Region} {lines : List Line} {outline : Outline}
    (h : Reads region lines outline) {before rest : List Line} {header : Line}
    (hlines : lines = before ++ header :: rest) (hnet : netOf before = 0)
    (hheader : header.goesOn = false) :
    ∃ first second, outline = first.append second ∧ Reads region before first ∧
      Reads region (header :: rest) second := by
  induction h generalizing before with
  | nil => simp at hlines
  | @leaf region line others outline hkind hrest ih =>
    cases before with
    | nil =>
      cases hlines
      exact ⟨.nil, _, rfl, .nil, .leaf hkind hrest⟩
    | cons other before =>
      obtain ⟨rfl, hothers⟩ := List.cons.inj hlines
      rw [netOf, net_eq_zero_of_kindOf hkind, Int.zero_add] at hnet
      obtain ⟨first, second, rfl, hfirst, hsecond⟩ := ih hothers hnet
      exact ⟨.leaf line first, second, rfl, .leaf hkind hfirst, hsecond⟩
  | @flat region kind line others e outline hkind hextent hregion hafter ih =>
    cases before with
    | nil =>
      cases hlines
      exact ⟨.nil, _, rfl, .nil, .flat hkind hextent hregion hafter⟩
    | cons other before =>
      -- The block ends before the line, and has the same extent without the lines from it.
      obtain ⟨rfl, hothers⟩ := List.cons.inj hlines
      obtain ⟨more, rfl, hmore, hzero, hblock⟩ := hextent.split hothers hnet hheader
      obtain ⟨first, second, rfl, hfirst, hsecond⟩ := ih hmore hzero
      exact ⟨_, second, rfl, .flat hkind hblock hregion hfirst, hsecond⟩
  | @nested region within kind line others e inner outline hkind hextent hregion hinner hafter
      _ ih =>
    cases before with
    | nil =>
      cases hlines
      exact ⟨.nil, _, rfl, .nil, .nested hkind hextent hregion hinner hafter⟩
    | cons other before =>
      obtain ⟨rfl, hothers⟩ := List.cons.inj hlines
      obtain ⟨more, rfl, hmore, hzero, hblock⟩ := hextent.split hothers hnet hheader
      obtain ⟨first, second, rfl, hfirst, hsecond⟩ := ih hmore hzero
      exact ⟨_, second, rfl, .nested hkind hblock hregion hinner hfirst, hsecond⟩

end PluginBuild.Listing
