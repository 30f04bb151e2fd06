import PluginBuild.Proofs.Metadata.TypeName
import PluginBuild.Proofs.Text.Lines
/-!
# Bytes in base sixteen

A listing writes a blob as pairs of digits with blanks and line comments between them
(`WritesBytes`). It can stand in parentheses and is read as its bytes, however it is cut into lines
(`bytesOfHex_writes`).
-/

namespace PluginBuild.Metadata

open Listing Text

variable {s t : List Char}

/-- The digits in base sixteen with their values. -/
def hexDigits : List (Char × Nat) :=
  "0123456789ABCDEF".toList.zipIdx ++ "abcdef".toList.zipIdx 10

/-- What may stand directly behind the digits of a byte: a blank, a comment or nothing. -/
def Separates (s : List Char) : Prop := (∀ c ∈ s.head?, isBlank c = true) ∨ ['/', '/'] <+: s

/-- A text that writes bytes in base sixteen. -/
inductive WritesBytes : List UInt8 → List Char → Prop
  | done : WritesBytes [] []
  | blank {c : Char} {bytes : List UInt8} {s : List Char} (hblank : isBlank c = true)
    (hs : WritesBytes bytes s) : WritesBytes bytes (c :: s)
  | comment {body : List Char} {bytes : List UInt8} {s : List Char} (hbody : '\n' ∉ body)
    (hs : WritesBytes bytes s) : WritesBytes bytes ('/' :: '/' :: (body ++ '\n' :: s))
  | byte {high low : Char} {m n : Nat} {bytes : List UInt8} {s : List Char}
    (hhigh : (high, m) ∈ hexDigits) (hlow : (low, n) ∈ hexDigits) (hbehind : Separates s)
    (hs : WritesBytes bytes s) :
    WritesBytes (UInt8.ofNat (m * 16 + n) :: bytes) (high :: low :: s)

/-! ### Digits -/

theorem hexDigits_plain : ∀ digit ∈ hexDigits, isBlank digit.1 = false ∧
    digit.1 ∉ ['\'', '"', '(', ')', '/', '\n', '+'] := by
  decide +kernel

theorem hexDigit_in_word {c : Char} {n : Nat} (h : (c, n) ∈ hexDigits) :
    isBlank c = false ∧ c ≠ '/' ∧ c ≠ '\n' := by
  obtain ⟨hblank, hmarks⟩ := hexDigits_plain _ h
  simp only [List.mem_cons, not_or] at hmarks
  exact ⟨hblank, hmarks.2.2.2.2.1, hmarks.2.2.2.2.2.1⟩

/-- A blank can stand in parentheses. -/
theorem balanced_blank {c : Char} (hc : isBlank c = true) (hs : Balanced '(' ')' s) :
    Balanced '(' ')' (c :: s) := by
  have hmarks : ∀ d ∈ ['\'', '"', '(', ')', '/'], c ≠ d := by
    have hplain : ∀ d ∈ ['\'', '"', '(', ')', '/'], isBlank d = false := by decide +kernel
    exact fun d hd => ne_of_isBlank hc (hplain d hd)
  simp only [List.forall_mem_cons] at hmarks
  exact .char (by simp [quotes, hmarks]) ⟨hmarks.2.2.1, hmarks.2.2.2.1⟩
    (fun hcomment => hmarks.2.2.2.2.1 hcomment.1) hs

/-- A digit can stand in parentheses. -/
theorem balanced_hexDigit {c : Char} {n : Nat} (h : (c, n) ∈ hexDigits)
    (hs : Balanced '(' ')' s) : Balanced '(' ')' (c :: s) := by
  obtain ⟨-, hmarks⟩ := hexDigits_plain _ h
  simp only [List.mem_cons, not_or] at hmarks
  exact .char (by simp [quotes, hmarks]) ⟨hmarks.2.2.1, hmarks.2.2.2.1⟩
    (fun hcomment => hmarks.2.2.2.2.1 hcomment.1) hs

theorem digitValue?_hexDigits : ∀ digit ∈ hexDigits,
    digitValue? 16 digit.1 = some digit.2 ∧ digit.2 < 16 := by
  decide +kernel

section

variable {high low : Char} {m n : Nat} (hhigh : (high, m) ∈ hexDigits)
  (hlow : (low, n) ∈ hexDigits)
include hhigh hlow

theorem unsigned?_hexDigits : unsigned? 16 255 [high, low] = some (m * 16 + n) := by
  obtain ⟨hm, hmbound⟩ := digitValue?_hexDigits _ hhigh
  obtain ⟨hn, hnbound⟩ := digitValue?_hexDigits _ hlow
  have hdigits : digits? 16 [high, low] = some (m * 16 + n) := by
    simp only at hm hn
    simp [digits?, digitsFrom?, hm, hn]
  have hplus : [high, low].head? ≠ some '+' := by
    rintro ⟨⟩
    exact (hexDigits_plain _ hhigh).2 (by simp)
  have hbound : m * 16 + n ≤ 255 := by
    simp only at hmbound hnbound
    omega
  rw [unsigned?_eq hplus, hdigits]
  simp [hbound]

end

/-- There are digits for every byte. -/
theorem exists_hexDigits (b : UInt8) : ∃ high low m n, (high, m) ∈ hexDigits ∧
    (low, n) ∈ hexDigits ∧ UInt8.ofNat (m * 16 + n) = b := by
  have hdigit : ∀ n < 16, ("0123456789ABCDEF".toList.getD n '0', n) ∈ hexDigits := by
    decide +kernel
  have hbound : b.toNat < 256 := b.toNat_lt
  have hhigh := hdigit (b.toNat / 16) (by omega)
  have hlow := hdigit (b.toNat % 16) (Nat.mod_lt _ (by decide))
  refine ⟨_, _, _, _, hhigh, hlow, ?_⟩
  rw [Nat.div_add_mod', UInt8.ofNat_toNat]

/-! ### Lines -/

/-- The words of a text outside of its line comments. -/
def hexWords (s : List Char) : List (List Char) :=
  (physicalLines s).flatMap fun line => words (beforeFirst "//".toList line)

theorem beforeFirst_cons {c : Char} (hc : c ≠ '/') (s : List Char) :
    beforeFirst "//".toList (c :: s) = c :: beforeFirst "//".toList s := by
  have hslash : '/' ∉ [c] := by simpa using Ne.symm hc
  exact beforeFirst_slashless hslash s

/-- A word before a text begins the first line of the text. -/
theorem physicalLines_word (hne : s ≠ []) (hfeed : '\n' ∉ s) (t : List Char) :
    physicalLines (s ++ t) =
      (s ++ (physicalLines t).headD []) :: (physicalLines t).tail := by
  induction s with
  | nil => exact absurd rfl hne
  | cons c s ih =>
    rw [List.mem_cons, not_or] at hfeed
    rw [List.cons_append, physicalLines, if_neg (Ne.symm hfeed.1)]
    cases s with
    | nil =>
      rw [List.nil_append]
      cases physicalLines t <;> rfl
    | cons d s =>
      rw [ih (by simp) hfeed.2]
      rfl

theorem hexWords_blank {c : Char} (hc : isBlank c = true) (s : List Char) :
    hexWords (c :: s) = hexWords s := by
  have hslash : c ≠ '/' := ne_of_isBlank hc (by decide +kernel)
  have hline (line : List Char) : words (beforeFirst "//".toList (c :: line)) =
      words (beforeFirst "//".toList line) := by
    rw [beforeFirst_cons hslash, words_blank hc]
  rw [hexWords, hexWords, physicalLines]
  split
  · rw [List.flatMap_cons, hline]
    rfl
  · cases physicalLines s with
    | nil =>
      rw [List.flatMap_cons, hline]
      rfl
    | cons line lines => rw [List.flatMap_cons, hline, List.flatMap_cons]

theorem hexWords_comment {body : List Char} (h : '\n' ∉ body) (s : List Char) :
    hexWords ('/' :: '/' :: (body ++ '\n' :: s)) = hexWords s := by
  have hline : physicalLines (('/' :: '/' :: (body ++ ['\n'])) ++ s) =
      ('/' :: '/' :: (body ++ ['\n'])) :: physicalLines s := by
    refine physicalLines_append (by simp) ?_ (.inr ?_)
    · rw [← List.cons_append, ← List.cons_append, List.dropLast_concat]
      simpa using h
    · rw [← List.cons_append, ← List.cons_append, List.getLast?_concat]
  rw [List.cons_append, List.cons_append, List.append_assoc, List.singleton_append] at hline
  rw [hexWords, hline, List.flatMap_cons, beforeFirst_comment]
  rfl

/-- What stands before the comments of the first line begins with a blank, if it is not empty. -/
theorem Separates.isBlank_of_firstLine (h : Separates t) :
    ∀ c ∈ (beforeFirst "//".toList ((physicalLines t).headD [])).head?, isBlank c = true := by
  -- A blank stays in front of the line, unless it ends the line. A comment leaves nothing of it.
  rcases h with hblank | ⟨rest, rfl⟩
  · cases t with
    | nil => simp [physicalLines, beforeFirst, cutFirst?]
    | cons c t =>
      have hc : isBlank c = true := hblank c rfl
      obtain ⟨line, hline⟩ : ∃ line, (physicalLines (c :: t)).headD [] = c :: line := by
        rw [physicalLines]
        split
        · exact ⟨[], rfl⟩
        · cases physicalLines t <;> exact ⟨_, rfl⟩
      rw [hline, beforeFirst_cons (ne_of_isBlank hc (by decide +kernel)), List.head?_cons]
      rintro d ⟨⟩
      exact hc
  · rw [physicalLines_word (s := ['/', '/']) (by simp) (by decide), List.headD_cons,
      List.cons_append, List.singleton_append, beforeFirst_comment]
    simp

theorem hexWords_word (hne : s ≠ []) (hs : ∀ c ∈ s, isBlank c = false ∧ c ≠ '/' ∧ c ≠ '\n')
    (ht : Separates t) : hexWords (s ++ t) = s :: hexWords t := by
  have hslash : '/' ∉ s := fun hmem => (hs _ hmem).2.1 rfl
  have hfeed : '\n' ∉ s := fun hmem => (hs _ hmem).2.2 rfl
  rw [hexWords, physicalLines_word hne hfeed, List.flatMap_cons, beforeFirst_slashless hslash,
    words_append hne (fun c hc => (hs c hc).1) ht.isBlank_of_firstLine, hexWords]
  cases physicalLines t <;> rfl

/-! ### Bytes -/

/-- What is written for bytes is read as these bytes. -/
theorem bytesOfHex_writes {bytes : List UInt8} (h : WritesBytes bytes s) :
    bytesOfHex s = bytes := by
  change (hexWords s).filterMap _ = bytes
  induction h with
  | done => rfl
  | blank hblank _ ih => rw [hexWords_blank hblank, ih]
  | comment hbody _ ih => rw [hexWords_comment hbody, ih]
  | @byte high low m n bytes s hhigh hlow hbehind _ ih =>
    have hplain : ∀ c ∈ [high, low], isBlank c = false ∧ c ≠ '/' ∧ c ≠ '\n' := by
      rw [List.forall_mem_cons, List.forall_mem_singleton]
      exact ⟨hexDigit_in_word hhigh, hexDigit_in_word hlow⟩
    have hword := hexWords_word (s := [high, low]) (by simp) hplain hbehind
    rw [List.cons_append, List.singleton_append] at hword
    rw [hword, List.filterMap_cons, unsigned?_hexDigits hhigh hlow, Option.map_some, ih]

/-- All bytes can be written. -/
theorem exists_writesBytes (bytes : List UInt8) : ∃ s, WritesBytes bytes s := by
  induction bytes with
  | nil => exact ⟨[], .done⟩
  | cons b bytes ih =>
    obtain ⟨s, hs⟩ := ih
    obtain ⟨high, low, m, n, hhigh, hlow, rfl⟩ := exists_hexDigits b
    refine ⟨high :: low :: ' ' :: s, .byte hhigh hlow (.inl ?_) (.blank isBlank_space hs)⟩
    rintro c ⟨⟩
    exact isBlank_space

theorem WritesBytes.balanced {bytes : List UInt8} (h : WritesBytes bytes s) :
    Balanced '(' ')' s := by
  induction h with
  | done => exact .nil
  | blank hblank _ ih => exact balanced_blank hblank ih
  | comment hbody _ ih => exact .comment hbody ih
  | byte hhigh hlow _ _ ih => exact balanced_hexDigit hhigh (balanced_hexDigit hlow ih)

end PluginBuild.Metadata
