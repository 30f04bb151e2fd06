import PluginBuild.Text.Lines
/-!
# Beginnings of texts and their physical lines

A place in a text is a number of bytes. `takeBytes` is what stands before a place;
`ProperLines` says of a list of lines that it is how its text is cut into physical lines, and
any lines taken out of such a list leave another one. A text that ends with a line feed is cut by
itself, whatever stands behind it (`physicalLines_append_of_ended`).
-/

namespace PluginBuild.Text

/-- The longest beginning of a text that takes at most `n` bytes. -/
def takeBytes (n : Nat) : List Char → List Char
  | [] => []
  | c :: rest => if c.utf8Size ≤ n then c :: takeBytes (n - c.utf8Size) rest else []

theorem byteLength_append (a b : List Char) :
    byteLength (a ++ b) = byteLength a + byteLength b := by
  induction a with
  | nil => simp [byteLength]
  | cons c rest ih =>
    rw [List.cons_append, byteLength, byteLength, ih]
    omega

/-- What stands before the place after `a` is `a`. -/
theorem takeBytes_append (a b : List Char) : takeBytes (byteLength a) (a ++ b) = a := by
  induction a with
  | nil =>
    cases b with
    | nil => rfl
    | cons c rest =>
      have hpos : ¬ c.utf8Size ≤ 0 := Nat.not_le_of_lt c.utf8Size_pos
      rw [byteLength, List.nil_append, takeBytes, if_neg hpos]
  | cons c rest ih =>
    rw [byteLength, List.cons_append, takeBytes, if_pos (Nat.le_add_right _ _),
      Nat.add_sub_cancel_left, ih]

/-- The lines are the physical lines of their text: each has a character, a line feed stands at
its end only, and all but the last have one. -/
structure ProperLines (ls : List (List Char)) : Prop where
  ne_nil : ∀ l ∈ ls, l ≠ []
  feed_last : ∀ l ∈ ls, '\n' ∉ l.dropLast
  ended : ls.Pairwise fun l _ => l.getLast? = some '\n'

/-- Lines taken out leave physical lines. -/
theorem ProperLines.sublist {ls ms : List (List Char)} (h : ProperLines ls)
    (hs : ms.Sublist ls) : ProperLines ms :=
  ⟨fun l hl => h.ne_nil l (hs.subset hl), fun l hl => h.feed_last l (hs.subset hl),
    h.ended.sublist hs⟩

/-- Lines with their line feeds in the same places are physical lines alike. -/
theorem ProperLines.map_congr {α : Type} {f g : α → Char} {ls : List (List α)}
    (h : ProperLines (ls.map (List.map f))) (hfeed : ∀ a, g a = '\n' ↔ f a = '\n') :
    ProperLines (ls.map (List.map g)) where
  ne_nil := by simpa using h.ne_nil
  feed_last := by simpa [← List.map_dropLast, hfeed] using h.feed_last
  ended := by simpa [List.pairwise_map, hfeed] using h.ended

/-- A line before others ends with its only line feed. -/
theorem ProperLines.count_feed {l : List Char} {rest : List (List Char)}
    (h : ProperLines (l :: rest)) (hrest : rest ≠ []) : l.count '\n' = 1 := by
  obtain ⟨m, ms, rfl⟩ := List.exists_cons_of_ne_nil hrest
  have hlast : l.getLast? = some '\n' := (List.pairwise_cons.1 h.ended).1 m (by simp)
  obtain ⟨start, rfl⟩ := List.getLast?_eq_some_iff.1 hlast
  have hfeed := h.feed_last (start ++ ['\n']) (by simp)
  rw [List.dropLast_concat] at hfeed
  rw [List.count_append, List.count_eq_zero_of_not_mem hfeed]
  rfl

/-- Lines before others have as many line feeds as they are. -/
theorem ProperLines.count_flatten {ls rest : List (List Char)} (h : ProperLines (ls ++ rest))
    (hrest : rest ≠ []) : ls.flatten.count '\n' = ls.length := by
  induction ls with
  | nil => rfl
  | cons l more ih =>
    have hmore := ih (h.sublist (List.sublist_cons_self l (more ++ rest)))
    have hl : l.count '\n' = 1 := h.count_feed (by simp [hrest])
    rw [List.flatten_cons, List.count_append, hl, hmore, List.length_cons, Nat.add_comm]

/-- A text is cut into physical lines. -/
theorem properLines_physicalLines (s : List Char) : ProperLines (physicalLines s) := by
  induction s with
  | nil => exact ⟨by simp [physicalLines], by simp [physicalLines], .nil⟩
  | cons c rest ih =>
    rw [physicalLines]
    split
    · next hc =>
      subst hc
      refine ⟨?_, ?_, List.pairwise_cons.2 ⟨fun _ _ => rfl, ih.ended⟩⟩
      · exact List.forall_mem_cons.2 ⟨by simp, ih.ne_nil⟩
      · exact List.forall_mem_cons.2 ⟨by simp, ih.feed_last⟩
    · next hc =>
      split
      · exact ⟨by simp, by simp, List.pairwise_singleton _ _⟩
      · next line lines heq =>
        rw [heq] at ih
        obtain ⟨d, more, rfl⟩ := List.exists_cons_of_ne_nil (ih.ne_nil line (by simp))
        have hended := List.pairwise_cons.1 ih.ended
        refine ⟨?_, ?_, List.pairwise_cons.2 ⟨fun m hm => ?_, hended.2⟩⟩
        · exact List.forall_mem_cons.2 ⟨by simp, (List.forall_mem_cons.1 ih.ne_nil).2⟩
        · refine List.forall_mem_cons.2 ⟨?_, (List.forall_mem_cons.1 ih.feed_last).2⟩
          have hfeed := (List.forall_mem_cons.1 ih.feed_last).1
          rw [List.dropLast_cons_of_ne_nil (by simp)]
          exact List.not_mem_cons_of_ne_of_not_mem (Ne.symm hc) hfeed
        · rw [List.getLast?_cons_cons]
          exact hended.1 m hm

/-- A line that ends with its only line feed, or ends the text, is the first physical line. -/
theorem physicalLines_append {l rest : List Char} (hne : l ≠ []) (hfeed : '\n' ∉ l.dropLast)
    (hend : rest = [] ∨ l.getLast? = some '\n') :
    physicalLines (l ++ rest) = l :: physicalLines rest := by
  induction l with
  | nil => exact absurd rfl hne
  | cons c more ih =>
    cases more with
    | nil =>
      by_cases hc : c = '\n'
      · rw [List.singleton_append, physicalLines, if_pos hc]
      · have hrest : rest = [] := by simpa [hc] using hend
        subst hrest
        simp [physicalLines, hc]
    | cons d more =>
      rw [List.dropLast_cons_of_ne_nil (by simp), List.mem_cons, not_or] at hfeed
      have htail := ih (by simp) hfeed.2 (by rwa [List.getLast?_cons_cons] at hend)
      rw [List.cons_append, physicalLines, if_neg (Ne.symm hfeed.1), htail]

/-- Physical lines put together are cut into themselves again. -/
theorem ProperLines.physicalLines_flatten {ls : List (List Char)} (h : ProperLines ls) :
    physicalLines ls.flatten = ls := by
  induction ls with
  | nil => rfl
  | cons l rest ih =>
    have hrest := ih (h.sublist (List.sublist_cons_self l rest))
    have hend : rest.flatten = [] ∨ l.getLast? = some '\n' := by
      cases rest with
      | nil => exact .inl rfl
      | cons m ms => exact .inr ((List.pairwise_cons.1 h.ended).1 m (by simp))
    rw [List.flatten_cons, physicalLines_append (h.ne_nil l (by simp)) (h.feed_last l (by simp))
      hend, hrest]

/-- Lines that all have line feeds go before other lines. -/
theorem ProperLines.append {ls ms : List (List Char)} (hls : ProperLines ls) (hms : ProperLines ms)
    (hended : ∀ l ∈ ls, l.getLast? = some '\n') : ProperLines (ls ++ ms) where
  ne_nil := List.forall_mem_append.2 ⟨hls.ne_nil, hms.ne_nil⟩
  feed_last := List.forall_mem_append.2 ⟨hls.feed_last, hms.feed_last⟩
  ended := List.pairwise_append.2 ⟨hls.ended, hms.ended, fun l hl _ _ => hended l hl⟩

/-- All lines of a text have line feeds if it ends with one. -/
theorem ended_of_mem_physicalLines {s : List Char} (hs : s = [] ∨ s.getLast? = some '\n') :
    ∀ l ∈ physicalLines s, l.getLast? = some '\n' := by
  have hproper := properLines_physicalLines s
  have hflatten := flatten_physicalLines s
  rcases List.eq_nil_or_concat (physicalLines s) with hnil | ⟨ls, last, hlast⟩
  · simp [hnil]
  · rw [List.concat_eq_append] at hlast
    rw [hlast] at hproper hflatten ⊢
    have hne : last ≠ [] := hproper.ne_nil last (by simp)
    have hfeed : last.getLast? = some '\n' := by
      rcases hs with rfl | hs
      · simp [hne] at hflatten
      · rw [← hflatten, List.flatten_append, List.flatten_singleton, List.getLast?_append,
          List.getLast?_eq_some_getLast hne] at hs
        rwa [List.getLast?_eq_some_getLast hne]
    refine List.forall_mem_append.2 ⟨fun l hl => ?_, by simpa using hfeed⟩
    exact (List.pairwise_append.1 hproper.ended).2.2 l hl last (by simp)

/-- A text that ends with a line feed is cut into lines by itself, whatever stands behind it. -/
theorem physicalLines_append_of_ended {s : List Char} (hs : s = [] ∨ s.getLast? = some '\n')
    (t : List Char) :
    physicalLines (s ++ t) = physicalLines s ++ physicalLines t := by
  have hproper := (properLines_physicalLines s).append (properLines_physicalLines t)
    (ended_of_mem_physicalLines hs)
  rw [← hproper.physicalLines_flatten, List.flatten_append, flatten_physicalLines,
    flatten_physicalLines]

/-- A text that ends with a line feed has as many line feeds as lines. -/
theorem length_physicalLines {s : List Char} (hs : s = [] ∨ s.getLast? = some '\n') :
    (physicalLines s).length = s.count '\n' := by
  -- The lines stand before those of another text, so that each has its line feed.
  have hlines := physicalLines_append_of_ended hs ['.']
  have hproper := properLines_physicalLines (s ++ ['.'])
  rw [hlines] at hproper
  rw [← hproper.count_flatten (by decide), flatten_physicalLines]

end PluginBuild.Text
