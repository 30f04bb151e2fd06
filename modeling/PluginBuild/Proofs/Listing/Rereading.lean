import PluginBuild.Proofs.Listing.Change
import PluginBuild.Proofs.Listing.Removal
/-!
# Reading again what a removal leaves

Markers that open as many braces as they close can be removed from an outline: the lines that are
left have the edited outline (`Reads.removeExports`). Where they leave the mode as it was as well,
the text that is left is read as the edited outline, but for the places of the lines
(`ofText_removeExports`).
-/

namespace PluginBuild.Listing

open Outline (markedName?)

/-- The second lines are the first without some that open as many braces as they close. -/
inductive Thinned : List Line → List Line → Prop
  | nil : Thinned [] []
  | keep (line : Line) {lines kept : List Line} (h : Thinned lines kept) :
      Thinned (line :: lines) (line :: kept)
  | drop {line : Line} (hnet : line.net = 0) {lines kept : List Line} (h : Thinned lines kept) :
      Thinned (line :: lines) kept

namespace Thinned

variable {lines kept : List Line}

theorem refl (lines : List Line) : Thinned lines lines := by
  induction lines with
  | nil => exact .nil
  | cons line rest ih => exact .keep line ih

theorem netOf_eq (h : Thinned lines kept) : netOf kept = netOf lines := by
  induction h with
  | nil => rfl
  | keep line _ ih => rw [netOf, netOf, ih]
  | drop hnet _ ih => rw [netOf, hnet, Int.zero_add, ih]

theorem staysOpen (h : Thinned lines kept) {depth : Int} (hopen : StaysOpen depth lines) :
    StaysOpen depth kept := by
  induction h generalizing depth with
  | nil => exact hopen
  | keep line _ ih => exact ⟨hopen.1, ih hopen.2⟩
  | drop hnet _ ih =>
    refine ih ?_
    have hrest := hopen.2
    rwa [hnet, Int.add_zero] at hrest

theorem eq_nil (h : Thinned [] kept) : kept = [] := by
  cases h
  rfl

/-- Lines chosen so that the others open as many braces as they close. -/
theorem filter {p : Line → Bool} (h : ∀ line ∈ lines, p line = false → line.net = 0) :
    Thinned lines (lines.filter p) := by
  induction lines with
  | nil => exact .nil
  | cons line rest ih =>
    obtain ⟨hline, hrest⟩ := List.forall_mem_cons.1 h
    rw [List.filter_cons]
    by_cases hp : p line
    · rw [if_pos hp]
      exact .keep line (ih hrest)
    · rw [if_neg hp]
      exact .drop (hline (by simpa using hp)) (ih hrest)

end Thinned

/-- The extent of a block with another body, before other lines. -/
def Extent.withBody (e : Extent) (inner after : List Line) : Extent :=
  { e with inner, after }

namespace HasExtent

variable {header : Line} {rest : List Line} {e : Extent}

theorem clause_goesOn (h : HasExtent header rest e) : ∀ line ∈ e.clause, line.goesOn = true := by
  cases h with
  | bare hbody _ => exact fun line hline => (hbody.clause_goesOn line hline).1
  | closed hopens _ => exact hopens.goesOn
  | enclosed hopens _ _ => exact hopens.goesOn

/-- The line that closes a body closes more braces than it opens. -/
theorem close_net_neg (h : HasExtent header rest e) : ∀ line ∈ e.close, line.net < 0 := by
  cases h with
  | bare => simp
  | closed => simp
  | enclosed _ hinner hnet =>
    intro line hline
    cases hline
    have hpos := hinner.pos
    omega

/-- A block goes as far when its body is thinned and the lines after it, if any, begin as they
did. -/
theorem thinned (h : HasExtent header rest e) {inner after : List Line}
    (hinner : Thinned e.inner inner) (hafter : ∀ line ∈ after.head?, line ∈ e.after.head?) :
    HasExtent header (e.clause ++ (inner ++ (e.close.toList ++ after)))
      (e.withBody inner after) := by
  cases h with
  | bare hbody hnet =>
    rw [hinner.eq_nil]
    exact .bare ⟨hbody.header_opens, hbody.clause_goesOn,
      fun line hline => hbody.ends line (hafter line hline)⟩ hnet
  | closed hopens hnet =>
    rw [hinner.eq_nil]
    exact .closed hopens hnet
  | enclosed hopens hopen hnet =>
    exact .enclosed hopens (hinner.staysOpen hopen) (by rw [hinner.netOf_eq, hnet])

end HasExtent

namespace Outline

variable {names : List String}

theorem removeExports_append (a b : Outline) :
    (a.append b).removeExports names = (a.removeExports names).append (b.removeExports names) := by
  induction a with
  | nil => rfl
  | leaf line rest ih => simp [append, removeExports, ih]
  | block kind header method body rest _ ih => simp [append, removeExports, ih]

theorem removeExports_ofLines (lines : List Line) :
    (ofLines lines).removeExports names = ofLines lines := by
  induction lines with
  | nil => rfl
  | cons line rest ih => rw [ofLines, removeExports, ih]

theorem dropMarkers_ofLines (lines : List Line) :
    (ofLines lines).dropMarkers names =
      ofLines (lines.filter fun line => (markedName? names line).isNone) := by
  induction lines with
  | nil => rfl
  | cons line rest ih =>
    rw [ofLines, dropMarkers, List.filter_cons]
    cases markedName? names line with
    | none => simp [ofLines, ih]
    | some name => simp [ih]

/-- The first line is no line of a method and stays. -/
theorem head?_lines_removeExports (outline : Outline) :
    (outline.removeExports names).lines.head? = outline.lines.head? := by
  cases outline <;> rfl

theorem removeExports_ofBlock {kind : BlockKind} (hkind : kind ≠ .method) (header : Line)
    (body rest : Outline) :
    (ofBlock kind header body rest).removeExports names =
      ofBlock kind header (body.removeExports names) (rest.removeExports names) := by
  simp [ofBlock, removeExports, hkind]

theorem entries_ofBlock {kind : BlockKind} (hkind : kind ≠ .method) (header : Line)
    (body rest : Outline) :
    (ofBlock kind header body rest).entries =
      .enter kind header none :: (body.entries ++ .leave :: rest.entries) := by
  simp [ofBlock, entries, entriesIn, Block.owner, hkind]

end Outline

/-- The lines of the entries that a removal takes out open as many braces as they close. -/
def Neutral (names : List String) (entries : List Entry) : Prop :=
  ∀ entry ∈ entries, entry.isKept names = false → ∀ line ∈ entry.line?, line.net = 0

section Removal

variable {names : List String}

theorem Neutral.append {a b : List Entry} (h : Neutral names (a ++ b)) :
    Neutral names a ∧ Neutral names b :=
  List.forall_mem_append.1 h

theorem Neutral.tail {entry : Entry} {rest : List Entry} (h : Neutral names (entry :: rest)) :
    Neutral names rest :=
  (List.forall_mem_cons.1 h).2

/-- Of neutral entries the lines that are kept are thinned. -/
theorem Neutral.thinned {entries : List Entry} (h : Neutral names entries) :
    Thinned (entries.filterMap Entry.line?)
      ((entries.filter (Entry.isKept names)).filterMap Entry.line?) := by
  induction entries with
  | nil => exact .nil
  | cons entry rest ih =>
    have hrest := ih h.tail
    rw [List.filter_cons, List.filterMap_cons]
    cases hkept : entry.isKept names with
    | true =>
      rw [if_pos rfl, List.filterMap_cons]
      cases entry.line? with
      | none => exact hrest
      | some line => exact .keep line hrest
    | false =>
      rw [if_neg (by simp)]
      cases hline : entry.line? with
      | none => exact hrest
      | some line => exact .drop (h entry (by simp) hkept line hline) hrest

theorem lines_removeExports_thinned {outline : Outline} (h : Neutral names outline.entries) :
    Thinned outline.lines (outline.removeExports names).lines := by
  have hthinned := h.thinned
  rwa [← Outline.entries_removeExports, Outline.filterMap_line_entries,
    Outline.filterMap_line_entries] at hthinned

/-- In the lines of a method, the markers that go open as many braces as they close. -/
theorem Neutral.net_eq_zero {owner : String} {lines : List Line}
    (h : Neutral names (lines.map (.leaf (some owner)))) :
    ∀ line ∈ lines, (markedName? names line).isNone = false → line.net = 0 := by
  intro line hline hmarked
  exact h _ (List.mem_map_of_mem hline) hmarked line rfl

/-- A line that goes on with a declaration is no marker. -/
theorem markedName_of_goesOn {line : Line} (h : line.goesOn = true) :
    markedName? names line = none := by
  rw [Outline.markedName_eq_none_iff]
  intro marker hmarker
  rw [Line.goesOn_of_marker hmarker] at h
  cases h

end Removal

/-- A block without the lines of its body that are markers of `names`, before other lines. -/
def Extent.removeMarkers (names : List String) (e : Extent) (after : List Line) : Extent :=
  e.withBody (e.inner.filter fun line => (markedName? names line).isNone) after

/-- The lines of a block are its clauses, its body and the line that closes it. -/
theorem Extent.around_ofLines (e : Extent) : e.around (.ofLines e.inner) = .ofLines e.lines := by
  rw [around, lines, Outline.ofLines_append, Outline.ofLines_append]

namespace HasExtent

variable {names : List String} {header : Line} {rest : List Line} {e : Extent}

/-- Of the lines of a method only lines of the body go. -/
theorem lines_removeMarkers (h : HasExtent header rest e) {owner : String}
    (hneutral : Neutral names (e.lines.map (.leaf (some owner)))) (after : List Line) :
    (e.removeMarkers names after).lines =
      e.lines.filter fun line => (markedName? names line).isNone := by
  have hclause : ∀ line ∈ e.clause, (markedName? names line).isNone = true := by
    intro line hline
    rw [markedName_of_goesOn (h.clause_goesOn line hline)]
    rfl
  have hclose : ∀ line ∈ e.close.toList, (markedName? names line).isNone = true := by
    intro line hline
    by_contra hmarked
    -- A marker that goes opens as many braces as it closes, and this line closes more.
    have hzero := hneutral.net_eq_zero line (by simp [Extent.lines, hline])
      (eq_false_of_ne_true hmarked)
    have hneg := h.close_net_neg line (Option.mem_toList.1 hline)
    omega
  rw [Extent.lines, Extent.lines, List.filter_append, List.filter_append,
    List.filter_eq_self.2 hclause, List.filter_eq_self.2 hclose]
  rfl

/-- What the declaration of a method says is not changed by what goes from its body. -/
theorem declaration_removeMarkers (h : HasExtent header rest e)
    (hbraces : ∀ line ∈ header :: rest, 0 < line.opens → '\x7b' ∈ line.text)
    (after : List Line) :
    Outline.declaration header.text (.ofLines (e.removeMarkers names after).lines) =
      Outline.declaration header.text (.ofLines e.lines) := by
  cases h with
  | bare => rfl
  | closed => rfl
  | @enclosed clause _ _ _ _ hopens _ _ =>
    have hclause (lines : List Line) :
        Outline.declaration header.text (.ofLines (clause ++ lines)) =
          Outline.declaration header.text (.ofLines clause) := by
      rw [Outline.ofLines_append]
      refine hopens.declaration_append (fun line hline => hbraces line ?_) _
      exact List.cons_subset_cons _ (List.subset_append_left _ _) hline
    exact (hclause _).trans (hclause _).symm

end HasExtent

theorem Extent.removeExports_around {names : List String} (e : Extent) (inner : Outline) :
    (e.around inner).removeExports names = e.around (inner.removeExports names) := by
  rw [around, around, Outline.removeExports_append, Outline.removeExports_append,
    Outline.removeExports_ofLines, Outline.removeExports_ofLines]

theorem Extent.entries_around (e : Extent) (inner : Outline) :
    (e.around inner).entries =
      e.clause.map (.leaf none) ++ (inner.entries ++ e.close.toList.map (.leaf none)) := by
  rw [around, Outline.entries_append, Outline.entries_append, Outline.entries, Outline.entries,
    Outline.entriesIn_ofLines, Outline.entries, Outline.entriesIn_ofLines]

/-- A region in a body that is read further belongs to no method. -/
theorem Extent.ne_method_of_region {e : Extent} {kind : BlockKind} {keyword : String}
    {region : Region} (h : e.region? kind keyword = some region) : kind ≠ .method := by
  rintro rfl
  rw [region?] at h
  split at h <;> cases h

/-- A removal takes its markers out of the body of a method. -/
theorem HasExtent.removeExports_method {names : List String} {header : Line} {rest : List Line}
    {e : Extent} (h : HasExtent header rest e) {owner : String}
    (hneutral : Neutral names (e.lines.map (.leaf (some owner))))
    (hbraces : ∀ line ∈ header :: rest, 0 < line.opens → '\x7b' ∈ line.text)
    (outline : Outline) (after : List Line) :
    (Outline.ofBlock .method header (e.around (.ofLines e.inner)) outline).removeExports names =
      .ofBlock .method header
        ((e.removeMarkers names after).around (.ofLines (e.removeMarkers names after).inner))
        (outline.removeExports names) := by
  rw [Extent.around_ofLines, Extent.around_ofLines, Outline.ofBlock, Outline.ofBlock,
    Outline.removeExports, if_pos rfl, if_pos rfl, if_pos rfl,
    h.declaration_removeMarkers hbraces, Outline.removeExports_ofLines,
    Outline.dropMarkers_ofLines, h.lines_removeMarkers hneutral]

/-- What a removal leaves begins as the lines did. -/
theorem Reads.head?_removeExports {region : Region} {lines : List Line} {outline : Outline}
    (h : Reads region lines outline) (names : List String) :
    ∀ line ∈ (outline.removeExports names).lines.head?, line ∈ lines.head? := by
  rw [Outline.head?_lines_removeExports, h.lines_eq]
  exact fun _ hline => hline

/-- The lines that a neutral removal leaves have the edited outline. -/
theorem Reads.removeExports {names : List String} {region : Region} {lines : List Line}
    {outline : Outline} (h : Reads region lines outline)
    (hneutral : Neutral names outline.entries)
    (hbraces : ∀ line ∈ lines, 0 < line.opens → '\x7b' ∈ line.text) :
    Reads region (outline.removeExports names).lines (outline.removeExports names) := by
  induction h with
  | nil => exact .nil
  | leaf hkind _ ih =>
    exact .leaf hkind (ih hneutral.tail (List.forall_mem_cons.1 hbraces).2)
  | @flat region kind line rest e outline hkind hextent hregion hafter ih =>
    obtain ⟨hbody, hrest⟩ := hneutral.tail.append
    have hagain := ih hrest.tail fun other hother => hbraces other (by
      rw [hextent.eq_append]
      simp [hother])
    have hhead := hafter.head?_removeExports names
    by_cases hmethod : kind = .method
    · -- Markers go from the body, and the block closes as before without them.
      subst hmethod
      rw [Block.owner, if_pos rfl, Extent.around_ofLines, Outline.entriesIn_ofLines] at hbody
      have hmarked : ∀ line ∈ e.inner, (markedName? names line).isNone = false → line.net = 0 :=
        fun other hother => hbody.net_eq_zero other (by simp [Extent.lines, hother])
      have hthinned := hextent.thinned (.filter hmarked) hhead
      rw [hextent.removeExports_method hbody hbraces outline
        (outline.removeExports names).lines, Extent.lines_ofBlock, Outline.lines_ofLines]
      exact .flat hkind hthinned hregion hagain
    · have hthinned := hextent.thinned (.refl e.inner) hhead
      have hreads := Reads.flat hkind hthinned hregion hagain
      rw [Outline.removeExports_ofBlock hmethod, Extent.removeExports_around,
        Outline.removeExports_ofLines, Extent.lines_ofBlock, Outline.lines_ofLines]
      exact hreads
  | @nested region within kind line rest e inner outline hkind hextent hregion hinner hafter
      ihinner ih =>
    -- The lines of the block itself stay; what goes from the body goes from methods within it.
    have hmethod := Extent.ne_method_of_region hregion
    rw [Outline.entries_ofBlock hmethod] at hneutral
    obtain ⟨hbody, hrest⟩ := hneutral.tail.append
    rw [Extent.entries_around] at hbody
    have hwithin : Neutral names inner.entries := hbody.append.2.append.1
    have hagain := ih hrest.tail fun other hother => hbraces other (by
      rw [hextent.eq_append]
      simp [hother])
    have hinside := ihinner hwithin fun other hother => hbraces other (by
      rw [hextent.eq_append]
      simp [Extent.lines, hother])
    have hhead := hafter.head?_removeExports names
    have hbodyThinned : Thinned e.inner (inner.removeExports names).lines := by
      rw [← hinner.lines_eq]
      exact lines_removeExports_thinned hwithin
    have hreads := Reads.nested hkind (hextent.thinned hbodyThinned hhead) hregion hinside hagain
    rw [Outline.removeExports_ofBlock hmethod, Extent.removeExports_around,
      Extent.lines_ofBlock]
    exact hreads

/-- A removal takes lines out. -/
theorem lines_removeExports_sublist (names : List String) (outline : Outline) :
    (outline.removeExports names).lines.Sublist outline.lines := by
  rw [← Outline.filterMap_line_entries, ← Outline.filterMap_line_entries outline,
    Outline.entries_removeExports]
  refine List.Sublist.filterMap _ ?_
  exact List.filter_sublist

/-- From an outline that a removal has left, but for the places of the lines, it takes nothing. -/
theorem lines_removeExports_of_unplaced {names : List String} {again outline : Outline}
    (h : again.unplaced = (outline.removeExports names).unplaced) :
    (again.removeExports names).lines = again.lines := by
  have htwice : (outline.removeExports names).removeExports names = outline.removeExports names :=
    Outline.removeExports_removeExports (fun _ => or_self_iff.symm) outline
  have hunplaced : (again.removeExports names).unplaced = again.unplaced := by
    rw [Outline.unplaced, ← moves_unplaced.removeExports_mapLines]
    refine (congrArg (Outline.removeExports names) h).trans ?_
    rw [Outline.unplaced, moves_unplaced.removeExports_mapLines, htwice]
    exact h.symm
  have hlength := congrArg (fun o : Outline => o.lines.length) hunplaced
  simp only [Outline.unplaced, Outline.lines_mapLines, List.length_map] at hlength
  exact (lines_removeExports_sublist names again).eq_of_length hlength

/-- Where each marker that goes opens as many braces as it closes, and leaves the mode as it was,
the text that is left is read as the edited outline, but for the places of the lines. -/
theorem ofText_removeExports {text : List Char} {names : List String} {outline : Outline}
    (h : Outline.ofText text = .ok outline)
    (hneutral : ∀ line ∈ outline.removedLines names,
      line.net = 0 ∧ modeAt text line.stop = modeAt text line.start) :
    ∃ again, Outline.ofText (outline.removeExports names).text = .ok again ∧
      again.unplaced = (outline.removeExports names).unplaced := by
  obtain ⟨lines, hlines, hreads⟩ := ofText_eq_ok_iff.1 h
  have hsame := hreads.lines_eq
  subst hsame
  have hsub := lines_removeExports_sublist names outline
  have hnodup := (laidOut_logicalLines hlines).1.nodup
  -- The lines that are left are read from their text again, at other places.
  obtain ⟨lines', hlines', hmoved⟩ := logicalLines_sublist hlines hsub fun line hline hout =>
    (hneutral line ((Outline.mem_removedLines_iff hnodup).2 ⟨hline, hout⟩)).2
  have hentries : Neutral names outline.entries := fun entry hentry hkept line hline =>
    (hneutral line (Outline.mem_removedLines.2 ⟨entry, hentry, hkept, hline⟩)).1
  -- At their old places they have the edited outline, and so they have it at the new ones.
  have hedited := hreads.removeExports hentries fun line hline =>
    brace_mem_of_mem_logicalLines hlines hline
  obtain ⟨again, hagain, hunplaced⟩ := hedited.exists_moved (hnodup.sublist hsub) hmoved
  exact ⟨again, ofText_eq_ok_iff.2 ⟨lines', hlines', hagain⟩, hunplaced⟩

end PluginBuild.Listing
