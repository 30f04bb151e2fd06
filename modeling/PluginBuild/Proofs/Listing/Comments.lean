import Mathlib.Data.List.Forall2
import PluginBuild.Proofs.Listing.Line
/-!
# Listings without comments

`blankComments` makes the comments of a listing blank. What is left is read into the same lines:
each has the number and the braces that it had, and its text but for the comments
(`logicalLines_blankComments`).
-/

namespace PluginBuild.Listing

open Text (byteLength physicalLines takeBytes ProperLines)

/-- What is left of a character when comments are made blank. -/
def blankMark (mark : Char × Part) : Char :=
  if mark.2 = .comment ∧ mark.1 ≠ '\n' then ' ' else mark.1

/-- What is left of a character, with its part then. -/
def uncommentedMark (mark : Char × Part) : Char × Part :=
  (blankMark mark, if mark.2 = .comment then .code else mark.2)

/-- The mode where comments are made blank. -/
def Mode.uncommented : Mode → Mode
  | .literal quote => .literal quote
  | .escaped quote => .escaped quote
  | _ => .code

/-- The characters of each physical line with their parts. -/
def Mode.markedLines (mode : Mode) : List (List Char) → List (List (Char × Part))
  | [] => []
  | physical :: rest =>
    (mode.read physical).1 :: (mode.read physical).2.atNextLine.markedLines rest

/-- The text with blanks in the place of its comments. Line feeds stay. -/
def blankComments (text : List Char) : List Char :=
  ((Mode.code.markedLines (physicalLines text)).map (List.map blankMark)).flatten

/-- What stands at the place of a line of a text where its comments are made blank. -/
def Line.blanked (text : List Char) (line : Line) : List Char :=
  ((blankComments text).drop (takeBytes line.start text).length).take line.text.length

/-- The line is what is left of another one, in a text whose comments are made blank. -/
structure Line.LeftOf (text : List Char) (line blanked : Line) : Prop where
  text_eq : blanked.text = line.blanked text
  number_eq : blanked.number = line.number
  opens_eq : blanked.opens = line.opens
  closes_eq : blanked.closes = line.closes

/-! ### Characters -/

theorem blankMark_eq_feed_iff (mark : Char × Part) : blankMark mark = '\n' ↔ mark.1 = '\n' := by
  unfold blankMark
  split
  · next h => simp [h.2]
  · rfl

theorem blankMark_cases (mark : Char × Part) : blankMark mark = ' ' ∨ blankMark mark = mark.1 := by
  unfold blankMark
  split
  · exact .inl rfl
  · exact .inr rfl

/-- A character after another that is no longer in a comment leads to the mode that is left. No
comment begins any more, since the character after it is what it was or blank. -/
theorem Mode.step_uncommented (mode : Mode) (c : Char) (next next' : Option Char)
    (hnext : next' = some '/' ∨ next' = some '*' → next' = next) :
    mode.uncommented.step (blankMark (c, (mode.step c next).1)) next' =
      ((uncommentedMark (c, (mode.step c next).1)).2, (mode.step c next).2.uncommented) := by
  have hcomment : Mode.code.step (blankMark (c, .comment)) next' = (.code, .code) := by
    by_cases hc : c = '\n' <;> simp [blankMark, Mode.step, hc]
  cases mode with
  | code =>
    by_cases hline : c = '/' ∧ next = some '/'
    · simpa [Mode.step, hline, uncommentedMark, uncommented] using hcomment
    by_cases hblock : c = '/' ∧ next = some '*'
    · simpa [Mode.step, hline, hblock, uncommentedMark, uncommented] using hcomment
    have hline' : ¬ (c = '/' ∧ next' = some '/') := fun h =>
      hline ⟨h.1, by rw [← hnext (.inl h.2), h.2]⟩
    have hblock' : ¬ (c = '/' ∧ next' = some '*') := fun h =>
      hblock ⟨h.1, by rw [← hnext (.inr h.2), h.2]⟩
    by_cases hquote : c = '"' ∨ c = '\''
    · simp [Mode.step, hline, hblock, hline', hblock', hquote, uncommentedMark, uncommented,
        blankMark]
    · simp [Mode.step, hline, hblock, hline', hblock', hquote, uncommentedMark, uncommented,
        blankMark]
  | literal quote =>
    rw [Mode.uncommented, Mode.step, Mode.step]
    split
    · next h => simp [uncommentedMark, uncommented, blankMark, h]
    · split
      · next h h' => simp [uncommentedMark, uncommented, blankMark, h, h']
      · next h h' => simp [uncommentedMark, uncommented, blankMark, h, h']
  | escaped quote => simp [Mode.step, uncommentedMark, uncommented, blankMark]
  | lineComment => exact hcomment
  | openingComment => exact hcomment
  | blockComment =>
    rw [Mode.step]
    split <;> exact hcomment
  | closingComment => exact hcomment

/-- A physical line whose comments are made blank is read as code and literals. -/
theorem Mode.read_uncommented (mode : Mode) (s : List Char) :
    mode.uncommented.read ((mode.read s).1.map blankMark) =
      ((mode.read s).1.map uncommentedMark, (mode.read s).2.uncommented) := by
  induction s generalizing mode with
  | nil => rfl
  | cons c rest ih =>
    have hstep := mode.step_uncommented c rest.head?
      (((mode.step c rest.head?).2.read rest).1.map blankMark).head? (by
        cases rest with
        | nil => simp [Mode.read]
        | cons d more =>
          rw [Mode.read, List.map_cons, List.head?_cons, List.head?_cons]
          rcases blankMark_cases (d, ((mode.step c (some d)).2.step d more.head?).1) with h | h
          · simp [h]
          · exact fun _ => congrArg some h)
    rw [Mode.read, List.map_cons, Mode.read, hstep, ih]
    rfl

/-- Braces and parentheses are counted as before. -/
theorem countCode_uncommentedMark {c : Char} (hblank : c ≠ ' ') (hfeed : c ≠ '\n')
    (marks : List (Char × Part)) :
    countCode c (marks.map uncommentedMark) = countCode c marks := by
  induction marks with
  | nil => rfl
  | cons mark rest ih =>
    obtain ⟨d, part⟩ := mark
    have hmark : uncommentedMark (d, part) = (c, .code) ↔ (d, part) = (c, .code) := by
      rw [uncommentedMark, blankMark]
      cases part with
      | comment =>
        by_cases hd : d = '\n'
        · simp [hd, Ne.symm hfeed]
        · simp [hd, Ne.symm hblank]
      | code => simp
      | literal => simp
    simp only [countCode, List.map_cons, List.count_cons, beq_iff_eq] at ih ⊢
    simp only [hmark, ih]

/-! ### Lines -/

theorem netParens_uncommentedMark (marks : List (Char × Part)) :
    netParens (marks.map uncommentedMark) = netParens marks := by
  rw [netParens, netParens, countCode_uncommentedMark (by decide) (by decide),
    countCode_uncommentedMark (by decide) (by decide)]

/-- Only a block comment is gone on with on the next physical line. -/
theorem Mode.uncommented_atNextLine (mode : Mode) : mode.atNextLine.uncommented = .code := by
  cases mode <;> rfl

theorem Mode.atNextLine_uncommented (mode : Mode) : mode.uncommented.atNextLine = .code := by
  cases mode <;> rfl

/-- One line has the number, the braces and the length of another. -/
structure Line.SameShape (line other : Line) : Prop where
  number_eq : other.number = line.number
  opens_eq : other.opens = line.opens
  closes_eq : other.closes = line.closes
  length_eq : other.text.length = line.text.length

/-- A line keeps its shape when what is left of a physical line is put at its end. -/
theorem Line.SameShape.extend {line other : Line} (h : line.SameShape other)
    (marks : List (Char × Part)) :
    (line.extend marks).SameShape (other.extend (marks.map uncommentedMark)) where
  number_eq := h.number_eq
  opens_eq := congrArg₂ (· + ·) h.opens_eq
    (countCode_uncommentedMark (by decide) (by decide) marks)
  closes_eq := congrArg₂ (· + ·) h.closes_eq
    (countCode_uncommentedMark (by decide) (by decide) marks)
  length_eq := by simp [Line.extend, h.length_eq]

/-- What is left of physical lines is read into lines of the same shapes. -/
theorem logicalFrom_blankMark {mode : Mode} {number offset : Nat}
    {pending pending' : Option (Line × Int)} {physicals : List (List Char)} {lines : List Line}
    (h : logicalFrom mode number offset pending physicals = .ok lines)
    (hmode : mode.uncommented = .code)
    (hpending : Option.Rel (fun a b => a.1.SameShape b.1 ∧ b.2 = a.2) pending pending')
    (offset' : Nat) :
    ∃ lines', logicalFrom .code number offset' pending'
        ((mode.markedLines physicals).map (List.map blankMark)) = .ok lines' ∧
      List.Forall₂ Line.SameShape lines lines' := by
  induction physicals generalizing mode number offset offset' pending pending' lines with
  | nil =>
    cases hpending with
    | none =>
      cases h
      exact ⟨[], rfl, .nil⟩
    | some => cases h
  | cons physical rest ih =>
    have hread := mode.read_uncommented physical
    rw [hmode] at hread
    -- The line that is gone on with, or a new one, has the shape of the other before it.
    have hopened : (pending.getD (Line.emptyAt offset number, 0)).1.SameShape
          (pending'.getD (Line.emptyAt offset' number, 0)).1 ∧
        (pending'.getD (Line.emptyAt offset' number, 0)).2 =
          (pending.getD (Line.emptyAt offset number, 0)).2 := by
      cases hpending with
      | none => exact ⟨⟨rfl, rfl, rfl, rfl⟩, rfl⟩
      | some hsame => exact hsame
    have hline := hopened.1.extend (mode.read physical).1
    have hnext := Mode.uncommented_atNextLine (mode.read physical).2
    rw [logicalFrom_cons] at h
    rw [Mode.markedLines, List.map_cons, logicalFrom_cons]
    simp only [Mode.afterLines, hread, netParens_uncommentedMark, hopened.2,
      Mode.atNextLine_uncommented] at h ⊢
    split at h
    · cases h
    next hneg =>
    rw [if_neg hneg]
    split at h
    · next hpos =>
      rw [if_pos hpos]
      refine ih h hnext ?_ _
      exact .some ⟨hline, rfl⟩
    · next hzero =>
      rw [if_neg hzero]
      obtain ⟨others, hothers, rfl⟩ := exists_ok_of_map_eq_ok h
      obtain ⟨others', hread', hshapes⟩ := ih hothers hnext .none _
      exact ⟨_, by rw [hread']; rfl, .cons hline hshapes⟩

theorem Mode.map_fst_markedLines (mode : Mode) (physicals : List (List Char)) :
    (mode.markedLines physicals).map (List.map (·.1)) = physicals := by
  induction physicals generalizing mode with
  | nil => rfl
  | cons physical rest ih => rw [markedLines, List.map_cons, map_fst_read, ih]

/-- What is left of physical lines are the physical lines of what is left. -/
theorem physicalLines_blankComments (text : List Char) :
    physicalLines (blankComments text) =
      (Mode.code.markedLines (physicalLines text)).map (List.map blankMark) := by
  have hproper := Text.properLines_physicalLines text
  rw [← Mode.code.map_fst_markedLines (physicalLines text)] at hproper
  have hsame := hproper.map_congr fun mark => blankMark_eq_feed_iff mark
  rw [blankComments, hsame.physicalLines_flatten]

/-- What stands at the place of a line behind a text is told by the lengths of the lines. -/
theorem LaidOut.blanked_eq {before : List Char} {lines lines' : List Line}
    (h : LaidOut before lines) (hshapes : List.Forall₂ Line.SameShape lines lines')
    (before' : List Char) (hlength : before'.length = before.length) :
    List.Forall₂ (fun line line' => line'.text =
      ((before' ++ lines'.flatMap Line.text).drop
        (takeBytes line.start (before ++ lines.flatMap Line.text)).length).take line.text.length)
      lines lines' := by
  induction hshapes generalizing before before' with
  | nil => exact .nil
  | @cons line line' rest rest' hshape _ ih =>
    rw [List.flatMap_cons, List.flatMap_cons]
    refine .cons ?_ ?_
    · rw [h.1.2.1, Text.takeBytes_append, ← hlength, List.drop_left, ← hshape.length_eq,
        List.take_left]
    · have hrest := ih h.2 (before' ++ line'.text) (by simp [hlength, hshape.length_eq])
      simpa only [List.append_assoc] using hrest

/-- A listing without its comments has the lines it had, without their comments. -/
theorem logicalLines_blankComments {text : List Char} {lines : List Line}
    (h : logicalLines text = .ok lines) :
    ∃ lines', logicalLines (blankComments text) = .ok lines' ∧
      List.Forall₂ (Line.LeftOf text) lines lines' := by
  obtain ⟨lines', hlines', hshapes⟩ :=
    logicalFrom_blankMark h rfl .none 0
  rw [← physicalLines_blankComments] at hlines'
  obtain ⟨hlaid, htext⟩ := laidOut_logicalLines h
  obtain ⟨-, htext'⟩ := laidOut_logicalLines hlines'
  have hplaces := hlaid.blanked_eq hshapes [] rfl
  rw [List.nil_append, List.nil_append, htext, htext'] at hplaces
  exact ⟨lines', hlines', .mp (fun line line' hplace hshape =>
    ⟨hplace, hshape.number_eq, hshape.opens_eq, hshape.closes_eq⟩) hplaces hshapes⟩

end PluginBuild.Listing
