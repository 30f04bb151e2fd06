import PluginBuild.Text.Blank
/-!
# Blanks around a text

Trimming a text and taking its first word both begin with its first character that is not blank.
A text that has no blank at either end (`Unpadded`) is what trimming leaves of it, whatever blanks
stand around it. Within a text blanks part its words, and those in front of a word count for
nothing.
-/

namespace PluginBuild.Text

-- What holds of the characters in a text is decided along the text. Without these instances it can
-- be decided by going through all the characters that there are, which never comes to an end.

instance (priority := high) decidableForallMem (p : Char → Prop) [DecidablePred p]
    (s : List Char) : Decidable (∀ c ∈ s, p c) :=
  List.decidableBAll p s

instance (priority := high) decidableForallMemOption (p : Char → Prop) [DecidablePred p]
    (first : Option Char) : Decidable (∀ c ∈ first, p c) :=
  Option.decidableForallMem first

/-- A text without its leading blanks begins with no blank. -/
theorem isBlank_of_trimStart {s : List Char} {c : Char} {rest : List Char}
    (h : trimStart s = c :: rest) : isBlank c = false := by
  have hhead := List.head?_dropWhile_not isBlank s
  rw [show s.dropWhile isBlank = c :: rest from h] at hhead
  simpa using hhead

theorem trimEnd_cons {c : Char} (hc : isBlank c = false) (rest : List Char) :
    trimEnd (c :: rest) = c :: trimEnd rest := by
  simp only [trimEnd, List.reverse_cons, List.dropWhile_append]
  by_cases h : rest.reverse.dropWhile isBlank = []
  · simp [h, hc]
  · simp [h]

/-- Trimming takes blanks from the end of a text. -/
theorem exists_trimEnd_append (s : List Char) :
    ∃ blanks, trimEnd s ++ blanks = s ∧ ∀ c ∈ blanks, isBlank c = true := by
  refine ⟨(s.reverse.takeWhile isBlank).reverse, ?_, fun c hc => ?_⟩
  · rw [trimEnd, ← List.reverse_append, List.takeWhile_append_dropWhile, List.reverse_reverse]
  · have hall := List.all_takeWhile (p := isBlank) (l := s.reverse)
    exact List.all_eq_true.1 hall c (List.mem_reverse.1 hc)

/-- Trimming takes an end from a text without its leading blanks. -/
theorem exists_trim_append (s : List Char) : ∃ blanks, trim s ++ blanks = trimStart s := by
  obtain ⟨blanks, hblanks, -⟩ := exists_trimEnd_append (trimStart s)
  exact ⟨blanks, hblanks⟩

theorem head?_trim (s : List Char) : (trim s).head? = (trimStart s).head? := by
  rw [trim]
  cases h : trimStart s with
  | nil => rfl
  | cons c rest => rw [trimEnd_cons (isBlank_of_trimStart h)]; rfl

theorem trim_eq_nil_iff {s : List Char} : trim s = [] ↔ ∀ c ∈ s, isBlank c = true := by
  rw [← List.head?_eq_none_iff, head?_trim, List.head?_eq_none_iff, trimStart]
  induction s with
  | nil => simp
  | cons c s ih =>
    rw [List.dropWhile_cons, List.forall_mem_cons, ← ih]
    split <;> simp_all

/-- No blank stands at either end of the text. -/
def Unpadded (s : List Char) : Prop :=
  (∀ c ∈ s.head?, isBlank c = false) ∧ ∀ c ∈ s.getLast?, isBlank c = false

instance (s : List Char) : Decidable (Unpadded s) := inferInstanceAs (Decidable (_ ∧ _))

theorem unpadded_of_forall {s : List Char} (h : ∀ c ∈ s, isBlank c = false) : Unpadded s :=
  ⟨fun c hc => h c (List.mem_of_mem_head? hc), fun c hc => h c (List.mem_of_getLast? hc)⟩

/-- A text between two characters that are not blank, such as quotes. -/
theorem unpadded_between {a b : Char} (ha : isBlank a = false) (hb : isBlank b = false)
    (s : List Char) : Unpadded (a :: (s ++ [b])) := by
  refine ⟨?_, ?_⟩
  · rintro c ⟨⟩
    exact ha
  · rw [← List.cons_append, List.getLast?_concat]
    rintro c ⟨⟩
    exact hb

theorem dropWhile_isBlank_append {blanks s : List Char} (hblanks : ∀ c ∈ blanks, isBlank c = true)
    (h : ∀ c ∈ s.head?, isBlank c = false) : (blanks ++ s).dropWhile isBlank = s := by
  rw [List.dropWhile_append_of_pos hblanks]
  cases s with
  | nil => rfl
  | cons c rest => exact List.dropWhile_cons_of_neg (by simp [h c rfl])

/-- Blanks around a text make no difference to what trimming leaves. -/
theorem trim_append {before s after : List Char} (hbefore : ∀ c ∈ before, isBlank c = true)
    (h : Unpadded s) (hafter : ∀ c ∈ after, isBlank c = true) :
    trim (before ++ (s ++ after)) = s := by
  have hlast : ∀ c ∈ s.reverse.head?, isBlank c = false := by
    rw [List.head?_reverse]
    exact h.2
  cases s with
  | nil =>
    have hstart : (before ++ after ++ []).dropWhile isBlank = [] :=
      dropWhile_isBlank_append (List.forall_mem_append.2 ⟨hbefore, hafter⟩) nofun
    rw [List.append_nil] at hstart
    rw [List.nil_append, trim, trimStart, hstart]
    rfl
  | cons c rest =>
    have hstart : (before ++ (c :: rest ++ after)).dropWhile isBlank = c :: rest ++ after :=
      dropWhile_isBlank_append hbefore h.1
    rw [trim, trimStart, hstart, trimEnd, List.reverse_append,
      dropWhile_isBlank_append (by simpa using hafter) hlast, List.reverse_reverse]

theorem trim_eq_self {s : List Char} (h : Unpadded s) : trim s = s := by
  have htrim := @trim_append [] s [] nofun h nofun
  rwa [List.nil_append, List.append_nil] at htrim

theorem head?_firstWord (s : List Char) : (firstWord s).head? = (trimStart s).head? := by
  rw [firstWord]
  cases h : trimStart s with
  | nil => rfl
  | cons c rest => simp [isBlank_of_trimStart h]

/-! ### Words -/

variable {s t : List Char}

theorem words_blank {c : Char} (h : isBlank c = true) (s : List Char) :
    words (c :: s) = words s := by
  rw [words, List.splitOnP_cons_eq_if_modifyHead, if_pos h, words]
  rfl

theorem words_blanks {blanks : List Char} (hblanks : ∀ c ∈ blanks, isBlank c = true)
    (t : List Char) : words (blanks ++ t) = words t := by
  induction blanks with
  | nil => rfl
  | cons b blanks ih =>
    obtain ⟨hb, hblanks⟩ := List.forall_mem_cons.1 hblanks
    rw [List.cons_append, words_blank hb, ih hblanks]

/-- A blank parts the words before it from those behind it. -/
theorem words_append_blank {b : Char} (hb : isBlank b = true) (s t : List Char) :
    words (s ++ b :: t) = words s ++ words t := by
  rw [words, List.splitOnP_append_cons _ _ hb, List.filter_append, words, words]

theorem exists_splitOnP_isBlank (t : List Char) :
    ∃ w more, t.splitOnP isBlank = w :: more ∧ w <+: t ∧ (t = [] → more = []) := by
  induction t with
  | nil => exact ⟨[], [], rfl, List.nil_prefix, fun _ => rfl⟩
  | cons c t ih =>
    obtain ⟨w, more, hsplit, hw, -⟩ := ih
    rw [List.splitOnP_cons_eq_if_modifyHead]
    split
    · exact ⟨[], _, rfl, List.nil_prefix, nofun⟩
    · exact ⟨c :: w, more, by rw [hsplit]; rfl, List.cons_prefix_cons.2 ⟨rfl, hw⟩, nofun⟩

/-- What has no blank in it begins the first word. -/
theorem exists_words_append (hne : s ≠ []) (h : ∀ c ∈ s, isBlank c = false) (t : List Char) :
    ∃ w more, words (s ++ t) = (s ++ w) :: more ∧ w <+: t ∧ (t = [] → more = []) := by
  obtain ⟨w, more, hsplit, hw, hmore⟩ := exists_splitOnP_isBlank t
  have happend : (s ++ t).splitOnP isBlank = (s ++ w) :: more := by
    clear hne
    induction s with
    | nil => exact hsplit
    | cons c s ih =>
      obtain ⟨hc, hs⟩ := List.forall_mem_cons.1 h
      rw [List.cons_append, List.splitOnP_cons_eq_if_modifyHead, if_neg (by simp [hc]), ih hs]
      rfl
  refine ⟨w, more.filter (!·.isEmpty), ?_, hw, fun ht => by rw [hmore ht]; rfl⟩
  rw [words, happend, List.filter_cons_of_pos (by simp [hne])]

/-- A word that nothing but a blank follows is a word of the text. -/
theorem words_append (hne : s ≠ []) (hs : ∀ c ∈ s, isBlank c = false)
    (ht : ∀ c ∈ t.head?, isBlank c = true) : words (s ++ t) = s :: words t := by
  have hword : s.splitOnP isBlank = [s] :=
    List.splitOnP_eq_singleton fun c hc => by simp [hs c hc]
  cases t with
  | nil => rw [List.append_nil, words, hword, List.filter_cons_of_pos (by simp [hne])]; rfl
  | cons c t =>
    have hc : isBlank c = true := ht c rfl
    rw [words_blank hc, words, List.splitOnP_append_cons _ _ hc, hword, List.singleton_append,
      List.filter_cons_of_pos (by simp [hne]), words]

theorem unbroken_of_mem_splitOnP {w : List Char} (h : w ∈ s.splitOnP isBlank) :
    ∀ c ∈ w, isBlank c = false := by
  induction s generalizing w with
  | nil =>
    rw [List.splitOnP_nil, List.mem_singleton] at h
    simp [h]
  | cons c s ih =>
    rw [List.splitOnP_cons_eq_if_modifyHead] at h
    split at h
    · rcases List.mem_cons.1 h with rfl | h
      · simp
      · exact ih h
    · next hc =>
      cases hsplit : s.splitOnP isBlank with
      | nil => simp [hsplit] at h
      | cons first more =>
        rw [hsplit, List.modifyHead_cons] at h
        rcases List.mem_cons.1 h with rfl | h
        · have hfirst := ih (w := first) (by simp [hsplit])
          exact List.forall_mem_cons.2 ⟨Bool.eq_false_iff.2 hc, hfirst⟩
        · exact ih (by simp [hsplit, h])

theorem of_mem_words {w : List Char} (h : w ∈ words s) : w ≠ [] ∧ ∀ c ∈ w, isBlank c = false := by
  rw [words, List.mem_filter] at h
  exact ⟨by simpa using h.2, unbroken_of_mem_splitOnP h.1⟩

/-- A text that begins with no blank begins with a word, which a blank ends or nothing. -/
theorem exists_word {c : Char} (hc : isBlank c = false) (s : List Char) :
    ∃ w rest, c :: s = w ++ rest ∧ w ≠ [] ∧ (∀ d ∈ w, isBlank d = false) ∧
      ∀ d ∈ rest.head?, isBlank d = true := by
  refine ⟨(c :: s).takeWhile (!isBlank ·), (c :: s).dropWhile (!isBlank ·),
    List.takeWhile_append_dropWhile.symm, by simp [hc], fun d hd => ?_, fun d hd => ?_⟩
  · simpa using List.all_eq_true.1 (List.all_takeWhile (p := (!isBlank ·)) (l := c :: s)) d hd
  · have hhead := List.head?_dropWhile_not (!isBlank ·) (c :: s)
    rw [Option.mem_def.1 hd] at hhead
    simpa using hhead

end PluginBuild.Text
