import PluginBuild.Listing.Token
/-!
# Tokens across lines

A text that has nothing open at its end, no literal, brackets or comment, can be followed by any
blank: its tokens end there, and the tokens of what follows come behind them
(`tokenize_append_of_endsOutside`). So it makes no difference to the tokens of such texts whether
they stand on one line or on several.
-/

namespace PluginBuild.Listing

open Text

/-- What is left at the end of a text with a character behind it ends with the character. -/
theorem exists_eq_concat {α : Type} {x y a : List α} {c : α} (h : x ++ y = a ++ [c])
    (hy : y ≠ []) : ∃ left, y = left ++ [c] ∧ a = x ++ left := by
  rcases List.append_eq_append_iff.1 h with ⟨left, ha, hleft⟩ | ⟨more, hx, hc⟩
  · exact ⟨left, hleft, ha⟩
  · cases more with
    | nil => exact ⟨[], hc.symm, by simpa using hx.symm⟩
    | cons d more =>
      have hnil : more ++ y = [] := (List.cons.inj hc).2.symm
      exact absurd (List.append_eq_nil_iff.1 hnil).2 hy

/-! ### Parts that are closed

A part that ends before the text does has been closed, and ends there whatever follows. -/

variable {s left : List Char}

theorem literal_cons {quote c : Char} (hescape : c ≠ '\\') (rest : List Char) :
    literal quote (c :: rest) = if c = quote then ([c], rest)
      else (c :: (literal quote rest).1, (literal quote rest).2) := by
  rw [literal.eq_def]
  dsimp only
  rw [if_neg hescape]

theorem literal_closed {quote : Char} (h : (literal quote s).2 ≠ []) (y : List Char) :
    literal quote ((literal quote s).1 ++ y) = ((literal quote s).1, y) := by
  fun_induction literal quote s with
  | case1 => exact absurd rfl h
  | case2 => exact absurd rfl h
  | case3 d rest more ih =>
    simp only [List.cons_append]
    rw [literal, if_pos rfl, ih h]
  | case4 rest hescape => rw [List.singleton_append, literal_cons hescape, if_pos rfl]
  | case5 c rest hescape hquote more ih =>
    simp only [List.cons_append]
    rw [literal_cons hescape, if_neg hquote, ih h]

/-- A bracketed part starts as the text does. -/
theorem head?_nested (opening closing : Char) (depth : Nat) (inside : Inside) (s : List Char) :
    (nested opening closing depth inside s).1.head? = s.head? := by
  cases s with
  | nil => rfl
  | cons c rest =>
    rw [nested]
    dsimp only
    split <;> rfl

/-- The bracket that closes the outermost does so whatever follows it. -/
theorem depthAfter_eq_zero {opening closing c : Char} {depth : Nat} {inside : Inside}
    {next : Option Char} (hslash : closing ≠ '/') (hdepth : 0 < depth)
    (h : depthAfter opening closing depth inside (inside.step c next) c = 0) (other : Option Char) :
    depthAfter opening closing depth inside (inside.step c other) c = 0 := by
  rw [depthAfter] at h
  split at h
  · next hplain =>
    obtain ⟨rfl, hafter⟩ := hplain
    split at h
    · cases h
    · next hopening =>
      split at h
      · next hclosing =>
        -- No bracket begins a comment.
        have hsame : Inside.step .plain c other = .plain := by
          have hquotes : ¬(c = '\'' ∨ c = '"') := by
            intro hquote
            rw [Inside.step, if_pos hquote] at hafter
            cases hafter
          rw [Inside.step, if_neg hquotes, if_neg fun hcomment => hslash (hclosing ▸ hcomment.1)]
        rw [depthAfter, hsame, if_pos ⟨rfl, rfl⟩, if_neg hopening, if_pos hclosing, h]
      · omega
  · omega

theorem nested_closed {opening closing : Char} {depth : Nat} {inside : Inside}
    (hslash : closing ≠ '/') (hdepth : 0 < depth)
    (h : (nested opening closing depth inside s).2 ≠ []) (y : List Char) :
    nested opening closing depth inside ((nested opening closing depth inside s).1 ++ y) =
      ((nested opening closing depth inside s).1, y) := by
  induction s generalizing depth inside with
  | nil => exact absurd rfl h
  | cons c rest ih =>
    rw [nested] at h ⊢
    dsimp only at h ⊢
    split at h
    · next hzero =>
      rw [if_pos hzero, List.singleton_append, nested]
      dsimp only
      rw [if_pos (depthAfter_eq_zero hslash hdepth hzero _)]
    · next hopen =>
      rw [if_neg hopen]
      have hhead := head?_nested opening closing
        (depthAfter opening closing depth inside (inside.step c rest.head?) c)
        (inside.step c rest.head?) rest
      generalize hmore : nested opening closing
        (depthAfter opening closing depth inside (inside.step c rest.head?) c)
        (inside.step c rest.head?) rest = more at h hhead
      have hsame : (more.1 ++ y).head? = rest.head? := by
        cases rest with
        | nil =>
          rw [nested] at hmore
          rw [← hmore] at h
          exact absurd rfl h
        | cons d rest =>
          obtain ⟨others, hothers⟩ := List.head?_eq_some_iff.1 hhead
          rw [hothers]
          rfl
      have hrest := ih (Nat.pos_of_ne_zero hopen) (hmore ▸ h)
      rw [hmore] at hrest
      rw [List.cons_append, nested]
      dsimp only
      rw [hsame, if_neg hopen, hrest]

theorem partAfter_closed {c : Char} (h : (partAfter c s).2 ≠ []) (y : List Char) :
    partAfter c ((partAfter c s).1 ++ y) = ((partAfter c s).1, y) := by
  unfold partAfter at h ⊢
  split at h
  · next hquote =>
    simp only [if_pos hquote]
    exact literal_closed h y
  · next hquote =>
    simp only [if_neg hquote]
    split at h
    · next hscope =>
      simp only [if_pos hscope]
      exact nested_closed (by decide) Nat.zero_lt_one h y
    · next hscope =>
      simp only [if_neg hscope]
      split at h
      · next hgeneric =>
        simp only [if_pos hgeneric]
        exact nested_closed (by decide) Nat.zero_lt_one h y
      · next hgeneric =>
        simp only [if_neg hgeneric]
        rfl

/-- A block comment that is closed ends there whatever follows. -/
theorem afterBlockComment_closed (h : afterBlockComment s ≠ []) :
    ∃ front, front ≠ [] ∧ s = front ++ afterBlockComment s ∧
      ∀ y, afterBlockComment (front ++ y) = y := by
  induction s with
  | nil => exact absurd rfl h
  | cons c rest ih =>
    rw [afterBlockComment] at h ⊢
    split at h
    · next hclose =>
      obtain ⟨rfl, hnext⟩ := hclose
      obtain ⟨more, rfl⟩ := List.head?_eq_some_iff.1 hnext
      rw [if_pos ⟨rfl, rfl⟩]
      exact ⟨['*', '/'], by simp, rfl, fun y => by simp [afterBlockComment]⟩
    · next hopen =>
      rw [if_neg hopen]
      obtain ⟨front, hne, hrest, hclosed⟩ := ih h
      refine ⟨c :: front, by simp, by rw [List.cons_append, ← hrest], fun y => ?_⟩
      obtain ⟨d, front, rfl⟩ := List.exists_cons_of_ne_nil hne
      rw [hrest] at hopen
      rw [List.cons_append, afterBlockComment]
      exact (if_neg hopen).trans (hclosed y)

/-! ### Words and groups -/

/-- A word ends before a blank or a group. -/
theorem endsWord_of_takeWord {c : Char} {rest : List Char} (h : (takeWord s).2 = c :: rest) :
    endsWord c = true := by
  fun_induction takeWord s with
  | case1 => cases h
  | case2 d more hends =>
    cases h
    exact hends
  | case3 d more hends part word ih => exact ih h

theorem ne_nil_of_takeWord (h : (takeWord s).2 ≠ []) : s ≠ [] := by
  rintro rfl
  rw [takeWord] at h
  exact h rfl

theorem takeWord_closed (h : (takeWord s).2 ≠ []) {d : Char} (hd : endsWord d = true)
    (y : List Char) : takeWord ((takeWord s).1 ++ d :: y) = ((takeWord s).1, d :: y) := by
  fun_induction takeWord s with
  | case1 => exact absurd rfl h
  | case2 => rw [List.nil_append, takeWord, if_pos hd]
  | case3 c rest hends part word ih =>
    have hpart : part.2 ≠ [] := ne_nil_of_takeWord h
    simp only [List.cons_append, List.append_assoc]
    rw [takeWord, if_neg hends]
    dsimp only
    rw [partAfter_closed hpart, ih h]

/-- A word and its group, with a space behind what they leave, leave the same before another
blank. -/
theorem takeToken_blank (h : (takeGroup (takeWord s).2).2 = left ++ [' ']) :
    ∃ front, s = front ++ (left ++ [' ']) ∧ ∀ b rest, isBlank b = true →
      ∃ after, takeWord (front ++ (left ++ b :: rest)) = ((takeWord s).1, after) ∧
        takeGroup after = ((takeGroup (takeWord s).2).1, left ++ b :: rest) := by
  have hs := takeWord_append s
  cases hword : (takeWord s).2 with
  | nil =>
    rw [hword, takeGroup] at h
    simp at h
  | cons c more =>
    have hends : endsWord c = true := endsWord_of_takeWord hword
    have hne : (takeWord s).2 ≠ [] := by simp [hword]
    rw [hword] at h hs
    by_cases hc : c = '('
    · -- The group is closed before what is left.
      subst hc
      have hgroup : (nested '(' ')' 1 .plain more).2 = left ++ [' '] := by
        rwa [takeGroup, if_pos rfl] at h
      have hmore := nested_append '(' ')' 1 .plain more
      have hclosed : ∀ y, nested '(' ')' 1 .plain ((nested '(' ')' 1 .plain more).1 ++ y) =
          ((nested '(' ')' 1 .plain more).1, y) :=
        nested_closed (by decide) Nat.zero_lt_one (by simp [hgroup])
      rw [hgroup] at hmore
      refine ⟨(takeWord s).1 ++ '(' :: (nested '(' ')' 1 .plain more).1, ?_, fun b rest _ => ?_⟩
      · rw [List.append_assoc, List.cons_append, hmore, hs]
      · refine ⟨'(' :: ((nested '(' ')' 1 .plain more).1 ++ (left ++ b :: rest)), ?_, ?_⟩
        · rw [List.append_assoc, List.cons_append]
          exact takeWord_closed hne hends _
        · rw [takeGroup, if_pos rfl, takeGroup, if_pos rfl]
          dsimp only
          rw [hclosed]
    · have hleft : c :: more = left ++ [' '] := by rwa [takeGroup, if_neg hc] at h
      have hgroup : takeGroup (c :: more) = (none, c :: more) := by rw [takeGroup, if_neg hc]
      refine ⟨(takeWord s).1, by rw [← hleft, hs], fun b rest hb => ⟨left ++ b :: rest, ?_, ?_⟩⟩
      · cases left with
        | nil => exact takeWord_closed hne (by simp [endsWord, hb]) rest
        | cons d left =>
          rw [(List.cons.inj hleft).1] at hends
          exact takeWord_closed hne hends _
      · rw [hgroup]
        cases left with
        | nil =>
          have hparen : b ≠ '(' := ne_of_isBlank hb (by decide +kernel)
          rw [List.nil_append, takeGroup, if_neg hparen]
        | cons d left =>
          rw [(List.cons.inj hleft).1] at hc
          rw [List.cons_append, takeGroup, if_neg hc]

/-! ### Texts with nothing open at the end -/

/-- The text after the first token or comment of a text that begins with no blank. -/
def afterFirst (c : Char) (rest : List Char) : List Char :=
  if c = '/' ∧ rest.head? = some '/' then rest.dropWhile (· ≠ '\n')
  else if c = '/' ∧ rest.head? = some '*' then afterBlockComment (rest.drop 1)
  else (takeGroup (takeWord (c :: rest)).2).2

theorem length_afterFirst_lt {c : Char} {rest : List Char} (h : isBlank c = false) :
    (afterFirst c rest).length < (c :: rest).length := by
  rw [afterFirst]
  split
  · exact Nat.lt_succ_of_le (List.dropWhile_sublist _).length_le
  · split
    · have hcomment := length_afterBlockComment_le (rest.drop 1)
      simp only [List.length_drop, List.length_cons] at *
      omega
    · exact length_afterToken_lt c rest h

/-- Whether every token and comment of a text ends before the text does. -/
def endsOutside : List Char → Bool
  | [] => true
  | c :: rest =>
    if _h : isBlank c = true then endsOutside rest
    else !(afterFirst c rest).isEmpty && endsOutside (afterFirst c rest)
termination_by s => s.length
decreasing_by
  · simp
  · exact length_afterFirst_lt (Bool.eq_false_iff.2 _h)

/-- The token with which a text begins that begins with no blank, unless it is a comment. -/
def firstToken? (c : Char) (rest : List Char) : Option Token :=
  if c = '/' ∧ (rest.head? = some '/' ∨ rest.head? = some '*') then none
  else
    let word := takeWord (c :: rest)
    some ⟨String.ofList word.1, (takeGroup word.2).1.map String.ofList⟩

/-- The tokens of a text are its first one and those behind it. -/
theorem tokenize_eq_first {c : Char} {rest : List Char} (h : isBlank c = false) :
    tokenize (c :: rest) = (firstToken? c rest).toList ++ tokenize (afterFirst c rest) := by
  have hblank : ¬isBlank c = true := by simp [h]
  rw [tokenize, if_neg hblank, firstToken?, afterFirst]
  by_cases hline : c = '/' ∧ rest.head? = some '/'
  · rw [if_pos hline, if_pos hline, if_pos ⟨hline.1, .inl hline.2⟩]
    rfl
  · by_cases hblock : c = '/' ∧ rest.head? = some '*'
    · rw [if_neg hline, if_neg hline, if_pos hblock, if_pos hblock,
        if_pos ⟨hblock.1, .inr hblock.2⟩]
      rfl
    · have hnone : ¬(c = '/' ∧ (rest.head? = some '/' ∨ rest.head? = some '*')) := by
        rintro ⟨rfl, hnext | hnext⟩
        · exact hline ⟨rfl, hnext⟩
        · exact hblock ⟨rfl, hnext⟩
      rw [if_neg hline, if_neg hline, if_neg hblock, if_neg hblock, if_neg hnone]
      rfl

theorem takeGroup_suffix (s : List Char) : (takeGroup s).2 <:+ s := by
  cases s with
  | nil => exact List.suffix_refl _
  | cons c rest =>
    rw [takeGroup]
    split
    · exact ⟨c :: (nested '(' ')' 1 .plain rest).1, by
        rw [List.cons_append, nested_append]⟩
    · exact List.suffix_refl _

theorem afterBlockComment_suffix (s : List Char) : afterBlockComment s <:+ s := by
  induction s with
  | nil => exact List.suffix_refl _
  | cons c rest ih =>
    rw [afterBlockComment]
    split
    · exact (List.drop_suffix 1 rest).trans (List.suffix_cons c rest)
    · exact ih.trans (List.suffix_cons c rest)

theorem afterFirst_suffix (c : Char) (rest : List Char) : afterFirst c rest <:+ c :: rest := by
  rw [afterFirst]
  split
  · exact (List.dropWhile_suffix _).trans (List.suffix_cons c rest)
  · split
    · exact ((afterBlockComment_suffix _).trans (List.drop_suffix 1 rest)).trans
        (List.suffix_cons c rest)
    · exact (takeGroup_suffix _).trans ⟨_, takeWord_append (c :: rest)⟩

/-- A blank behind a text decides nothing about the comments in it. -/
theorem head?_append_blank {b c : Char} (hb : isBlank b = true) (hc : isBlank c = false)
    (a rest : List Char) : (a ++ b :: rest).head? = some c ↔ (a ++ [' ']).head? = some c := by
  cases a with
  | nil =>
    have hspace : ' ' ≠ c := ne_of_isBlank isBlank_space hc
    simp [ne_of_isBlank hb hc, hspace]
  | cons d a => rfl

/-- A line comment that ends before a space ends before another blank as well. -/
theorem dropWhile_blank {a : List Char}
    (h : (a ++ [' ']).dropWhile (· ≠ '\n') = left ++ [' ']) (b : Char) (rest : List Char) :
    (a ++ b :: rest).dropWhile (· ≠ '\n') = left ++ b :: rest := by
  rw [List.dropWhile_append] at h ⊢
  split at h
  · simp at h
  · next hfeed => rw [if_neg hfeed, List.append_cancel_right h]

theorem afterBlockComment_blank {a : List Char} (h : afterBlockComment (a ++ [' ']) = left ++ [' '])
    (b : Char) (rest : List Char) : afterBlockComment (a ++ b :: rest) = left ++ b :: rest := by
  obtain ⟨front, -, hfront, hclosed⟩ := afterBlockComment_closed (s := a ++ [' ']) (by simp [h])
  rw [h, ← List.append_assoc] at hfront
  rw [List.append_cancel_right hfront, List.append_assoc]
  exact hclosed _

/-- What is left behind the first token or comment, with a space at its end, is left before another
blank as well. -/
theorem afterFirst_blank {a : List Char} {c : Char}
    (h : afterFirst c (a ++ [' ']) = left ++ [' ']) {b : Char} (hb : isBlank b = true)
    (rest : List Char) :
    afterFirst c (a ++ b :: rest) = left ++ b :: rest ∧
      firstToken? c (a ++ b :: rest) = firstToken? c (a ++ [' ']) := by
  have hslash : (a ++ b :: rest).head? = some '/' ↔ (a ++ [' ']).head? = some '/' :=
    head?_append_blank hb (by decide +kernel) a rest
  have hstar : (a ++ b :: rest).head? = some '*' ↔ (a ++ [' ']).head? = some '*' :=
    head?_append_blank hb (by decide +kernel) a rest
  rw [afterFirst] at h
  simp only [afterFirst, firstToken?, hslash, hstar]
  split at h
  · next hline =>
    simp only [hline, true_or, and_self, if_true, and_true]
    exact dropWhile_blank h b rest
  · next hline =>
    simp only [if_neg hline]
    split at h
    · next hblock =>
      obtain ⟨rfl, hnext⟩ := hblock
      simp only [hnext, and_self, or_true, if_true, and_true]
      cases a with
      | nil => cases hnext
      | cons d a => exact afterBlockComment_blank h b rest
    · next hblock =>
      have hnone : ¬(c = '/' ∧
          ((a ++ [' ']).head? = some '/' ∨ (a ++ [' ']).head? = some '*')) := by
        rintro ⟨rfl, hnext | hnext⟩
        · exact hline ⟨rfl, hnext⟩
        · exact hblock ⟨rfl, hnext⟩
      simp only [if_neg hblock, if_neg hnone]
      obtain ⟨front, hfront, htoken⟩ := takeToken_blank h
      obtain ⟨after, hword, hgroup⟩ := htoken b rest hb
      have ha : c :: a = front ++ left := by
        rw [← List.cons_append, ← List.append_assoc] at hfront
        exact List.append_cancel_right hfront
      rw [← List.append_assoc, ← ha, List.cons_append] at hword
      rw [hword, hgroup]
      exact ⟨rfl, rfl⟩

/-- A text with nothing open at its end has the same tokens before any blank, and those of what
follows come behind them. -/
theorem tokenize_append_of_endsOutside {b : Char} (hb : isBlank b = true) (rest : List Char) :
    ∀ {a : List Char}, endsOutside (a ++ [' ']) = true →
      tokenize (a ++ b :: rest) = tokenize (a ++ [' ']) ++ tokenize rest
  | [], _ => by simp [tokenize, hb, isBlank_space]
  | c :: a, h => by
    rw [List.cons_append, endsOutside] at h
    rw [List.cons_append, List.cons_append]
    by_cases hc : isBlank c = true
    · rw [dif_pos hc] at h
      rw [tokenize, if_pos hc, tokenize, if_pos hc]
      exact tokenize_append_of_endsOutside hb rest h
    · rw [dif_neg hc, Bool.and_eq_true, Bool.not_eq_true', List.isEmpty_eq_false_iff] at h
      obtain ⟨hne, hmore⟩ := h
      have hnotBlank : isBlank c = false := Bool.eq_false_iff.2 hc
      obtain ⟨front, hfront⟩ := afterFirst_suffix c (a ++ [' '])
      rw [← List.cons_append] at hfront
      obtain ⟨left, hleft, -⟩ := exists_eq_concat hfront hne
      obtain ⟨hafter, hfirst⟩ := afterFirst_blank hleft hb rest
      -- What is left is shorter by the first token or comment.
      have hlength : (left ++ [' ']).length < (c :: (a ++ [' '])).length :=
        hleft ▸ length_afterFirst_lt hnotBlank
      rw [hleft] at hmore
      rw [tokenize_eq_first hnotBlank, tokenize_eq_first hnotBlank, hafter, hfirst, hleft,
        tokenize_append_of_endsOutside hb rest hmore, List.append_assoc]
termination_by a => a.length
decreasing_by
  · simp
  · simpa using hlength

end PluginBuild.Listing
