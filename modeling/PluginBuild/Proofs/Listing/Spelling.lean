import PluginBuild.Proofs.Listing.Token
import PluginBuild.Proofs.Text.Blank
/-!
# Spelled tokens

Which texts are read as which tokens. A word is made of characters, literals, scopes in brackets and
generic arguments (`IsWord`), a group of what stands in balanced parentheses (`Balanced`), and
between tokens stand blanks and comments (`Spells`). A text that spells tokens has these tokens,
before those of any text behind it (`tokenize_spells`).
-/

namespace PluginBuild.Listing

open Text

variable {opening closing quote : Char} {s t rest : List Char}

/-! ### Closed parts -/

/-- What stands between the quotes of a literal. A backslash takes the next character along. -/
inductive LiteralBody (quote : Char) : List Char → Prop
  | nil : LiteralBody quote []
  | char {c : Char} {s : List Char} (hescape : c ≠ '\\') (hquote : c ≠ quote)
    (hs : LiteralBody quote s) : LiteralBody quote (c :: s)
  | escaped (c : Char) {s : List Char} (hs : LiteralBody quote s) :
    LiteralBody quote ('\\' :: c :: s)

theorem literalBody_of_forall_ne (h : ∀ c ∈ s, c ≠ '\\' ∧ c ≠ quote) : LiteralBody quote s := by
  induction s with
  | nil => exact .nil
  | cons c s ih =>
    obtain ⟨⟨hescape, hquote⟩, hs⟩ := List.forall_mem_cons.1 h
    exact .char hescape hquote (ih hs)

/-- The quotes that literals stand in. -/
def quotes : List Char := ['\'', '"']

/-- The brackets that parts of a declaration stand in. -/
def brackets : List (Char × Char) := [('(', ')'), ('[', ']'), ('<', '>')]

/-- What can stand in brackets: each such bracket in it that no literal and no line comment holds
has its counterpart. -/
inductive Balanced (opening closing : Char) : List Char → Prop
  | nil : Balanced opening closing []
  | char {c : Char} {s : List Char} (hquote : c ∉ quotes) (hbracket : c ≠ opening ∧ c ≠ closing)
    (hcomment : ¬(c = '/' ∧ s.head? = some '/')) (hs : Balanced opening closing s) :
    Balanced opening closing (c :: s)
  | literal {quote : Char} {body s : List Char} (hquote : quote ∈ quotes)
    (hbody : LiteralBody quote body) (hs : Balanced opening closing s) :
    Balanced opening closing (quote :: (body ++ quote :: s))
  | comment {body s : List Char} (hbody : '\n' ∉ body) (hs : Balanced opening closing s) :
    Balanced opening closing ('/' :: '/' :: (body ++ '\n' :: s))
  | nested {inner s : List Char} (hinner : Balanced opening closing inner)
    (hs : Balanced opening closing s) :
    Balanced opening closing (opening :: (inner ++ closing :: s))

/-- The cut of a text with more in front of it. -/
def before (s : List Char) (cut : List Char × List Char) : List Char × List Char :=
  (s ++ cut.1, cut.2)

@[simp]
theorem before_before (s t : List Char) (cut : List Char × List Char) :
    before s (before t cut) = before (s ++ t) cut := by
  rw [before, before, before, List.append_assoc]

theorem ne_escape_of_mem_quotes (h : quote ∈ quotes) : quote ≠ '\\' := by
  rintro rfl
  revert h
  decide

/-- A bracket is no quote, begins no comment and is not its own counterpart. -/
theorem brackets_apart (h : (opening, closing) ∈ brackets) :
    (opening ∉ quotes ∧ opening ≠ '/') ∧ closing ∉ quotes ∧ closing ≠ '/' ∧
      closing ≠ opening := by
  simp only [brackets, List.mem_cons, List.not_mem_nil, Prod.mk.injEq, or_false] at h
  rcases h with ⟨rfl, rfl⟩ | ⟨rfl, rfl⟩ | ⟨rfl, rfl⟩ <;> decide

theorem literal_body (h : LiteralBody quote s) (hquote : quote ∈ quotes) (rest : List Char) :
    literal quote (s ++ quote :: rest) = (s ++ [quote], rest) := by
  induction h with
  | nil =>
    rw [List.nil_append, literal_cons (ne_escape_of_mem_quotes hquote), if_pos rfl,
      List.nil_append]
  | char hescape hne _ ih =>
    rw [List.cons_append, literal_cons hescape, if_neg hne, ih, List.cons_append]
  | escaped c _ ih =>
    rw [List.cons_append, List.cons_append, literal, if_pos rfl, ih, List.cons_append,
      List.cons_append]

theorem Inside.step_quote (h : quote ∈ quotes) (next : Option Char) :
    Inside.step .plain quote next = .literal quote := by
  simpa [Inside.step, quotes] using fun h' h'' => absurd h (by simp [quotes, h', h''])

theorem Inside.step_plain {c : Char} {next : Option Char} (hquote : c ∉ quotes)
    (hcomment : ¬(c = '/' ∧ next = some '/')) : Inside.step .plain c next = .plain := by
  simp only [quotes, List.mem_cons, List.not_mem_nil, or_false] at hquote
  rw [Inside.step, if_neg hquote, if_neg hcomment]

/-- A character that leaves a bracket open goes into the part. -/
theorem nested_cons (after : Inside) {depth depth' : Nat} {inside : Inside} {c : Char}
    (hafter : inside.step c s.head? = after)
    (hdepth : depthAfter opening closing depth inside after c = depth') (hopen : 0 < depth') :
    nested opening closing depth inside (c :: s) =
      before [c] (nested opening closing depth' after s) := by
  subst hafter hdepth
  rw [nested]
  exact if_neg (Nat.pos_iff_ne_zero.1 hopen)

section

variable {depth : Nat} (hopen : 0 < depth)
include hopen

theorem nested_literalBody (h : LiteralBody quote s) (hquote : quote ∈ quotes)
    (rest : List Char) :
    nested opening closing depth (.literal quote) (s ++ quote :: rest) =
      before (s ++ [quote]) (nested opening closing depth .plain rest) := by
  induction h with
  | nil =>
    rw [List.nil_append, List.nil_append]
    exact nested_cons .plain (by simp [Inside.step, ne_escape_of_mem_quotes hquote])
      (by simp [depthAfter]) hopen
  | char hescape hne _ ih =>
    rw [List.cons_append, nested_cons (.literal quote)
      (by simp [Inside.step, hescape, hne]) (by simp [depthAfter]) hopen, ih, before_before]
    rfl
  | escaped c _ ih =>
    rw [List.cons_append, List.cons_append, nested_cons (.escaped quote)
      (by simp [Inside.step]) (by simp [depthAfter]) hopen, nested_cons (.literal quote)
      (by simp [Inside.step]) (by simp [depthAfter]) hopen, ih, before_before, before_before]
    rfl

theorem nested_commentBody (h : '\n' ∉ s) (rest : List Char) :
    nested opening closing depth .comment (s ++ '\n' :: rest) =
      before (s ++ ['\n']) (nested opening closing depth .plain rest) := by
  induction s with
  | nil => exact nested_cons .plain (by simp [Inside.step]) (by simp [depthAfter]) hopen
  | cons c s ih =>
    rw [List.mem_cons, not_or] at h
    rw [List.cons_append, nested_cons .comment
      (by simp [Inside.step, Ne.symm h.1]) (by simp [depthAfter]) hopen, ih h.2, before_before]
    rfl

end

/-- What can stand in brackets is read through, however many are open. -/
theorem nested_balanced (hpair : (opening, closing) ∈ brackets) {depth : Nat} (hopen : 0 < depth)
    (h : Balanced opening closing s) (hrest : rest.head? ≠ some '/') :
    nested opening closing depth .plain (s ++ rest) =
      before s (nested opening closing depth .plain rest) := by
  obtain ⟨hopening, hclosing⟩ := brackets_apart hpair
  simp only [quotes, List.mem_cons, List.not_mem_nil, or_false] at hopening hclosing
  induction h generalizing depth rest with
  | nil => rfl
  | @char c s hquote hbracket hcomment _ ih =>
    -- A slash at the end of the part begins no comment with what stands behind the part.
    have hnext : ¬(c = '/' ∧ (s ++ rest).head? = some '/') := by
      rintro ⟨rfl, hhead⟩
      cases s with
      | nil => exact hrest hhead
      | cons d s => exact hcomment ⟨rfl, hhead⟩
    rw [List.cons_append, nested_cons _ (Inside.step_plain hquote hnext)
      (by simp [depthAfter, hbracket]) hopen,
      ih hopen hrest, before_before]
    rfl
  | @literal quote body s hquote hbody _ ih =>
    rw [List.cons_append, nested_cons _ (Inside.step_quote hquote _) (by simp [depthAfter]) hopen,
      List.append_assoc, List.cons_append, nested_literalBody hopen hbody hquote, ih hopen hrest,
      before_before, before_before]
    simp
  | @comment body s hbody _ ih =>
    rw [List.cons_append, nested_cons .comment (by simp [Inside.step])
      (by simp [depthAfter]) hopen, List.cons_append, nested_cons .comment
      (by simp [Inside.step]) (by simp [depthAfter]) hopen, List.append_assoc, List.cons_append,
      nested_commentBody hopen hbody, ih hopen hrest, before_before, before_before, before_before]
    simp
  | @nested inner s _ _ ihinner ih =>
    rw [List.cons_append, nested_cons .plain (by simp [Inside.step, hopening])
      (by simp [depthAfter]) (Nat.succ_pos depth),
      List.append_assoc, List.cons_append, ihinner (Nat.succ_pos depth) (by simp [hclosing]),
      nested_cons .plain (by simp [Inside.step, hclosing])
      (by simp [depthAfter, hclosing]) hopen, ih hopen hrest, before_before, before_before,
      before_before]
    simp

/-- What has no quotes, brackets and slashes in it can stand in brackets. -/
theorem balanced_of_forall_not_mem
    (h : ∀ c ∈ s, c ∉ quotes ∧ (c ≠ opening ∧ c ≠ closing) ∧ c ≠ '/') :
    Balanced opening closing s := by
  induction s with
  | nil => exact .nil
  | cons c s ih =>
    obtain ⟨⟨hquote, hbracket, hslash⟩, hs⟩ := List.forall_mem_cons.1 h
    exact .char hquote hbracket (fun hcomment => hslash hcomment.1) (ih hs)

theorem nested_balanced_closing (hpair : (opening, closing) ∈ brackets)
    (h : Balanced opening closing s) (rest : List Char) :
    nested opening closing 1 .plain (s ++ closing :: rest) = (s ++ [closing], rest) := by
  obtain ⟨-, hclosing⟩ := brackets_apart hpair
  simp only [quotes, List.mem_cons, List.not_mem_nil, or_false] at hclosing
  rw [nested_balanced hpair Nat.zero_lt_one h (by simp [hclosing]), nested]
  simp [Inside.step, depthAfter, hclosing, before]

/-! ### Words -/

/-- What is read as one word: in it no blank and no parenthesis stands outside of literals, scopes
and generic arguments, and all of these are closed. -/
inductive IsWord : List Char → Prop
  | nil : IsWord []
  | char {c : Char} {s : List Char} (hends : endsWord c = false) (hquote : c ∉ quotes)
    (hbracket : c ≠ '[' ∧ c ≠ '<') (hs : IsWord s) : IsWord (c :: s)
  | literal {quote : Char} {body s : List Char} (hquote : quote ∈ quotes)
    (hbody : LiteralBody quote body) (hs : IsWord s) : IsWord (quote :: (body ++ quote :: s))
  | scope {inner s : List Char} (hinner : Balanced '[' ']' inner) (hs : IsWord s) :
    IsWord ('[' :: (inner ++ ']' :: s))
  | generics {inner s : List Char} (hinner : Balanced '<' '>' inner) (hs : IsWord s) :
    IsWord ('<' :: (inner ++ '>' :: s))

/-- A character takes what it draws along into its word. -/
theorem takeWord_cons {c : Char} {part : List Char} (hends : endsWord c = false)
    (hpart : partAfter c s = (part, t)) : takeWord (c :: s) = before (c :: part) (takeWord t) := by
  rw [takeWord, hends, hpart]
  rfl

/-- A word is read through, and what follows it belongs to the same word. -/
theorem takeWord_isWord (h : IsWord s) (rest : List Char) :
    takeWord (s ++ rest) = before s (takeWord rest) := by
  induction h with
  | nil => rfl
  | @char c s hends hquote hbracket _ ih =>
    simp only [quotes, List.mem_cons, List.not_mem_nil, or_false] at hquote
    have hpart : partAfter c (s ++ rest) = ([], s ++ rest) := by
      rw [partAfter, if_neg hquote, if_neg hbracket.1, if_neg hbracket.2]
    rw [List.cons_append, takeWord_cons hends hpart, ih, before_before]
    rfl
  | @literal quote body s hquote hbody _ ih =>
    have hends : endsWord quote = false := by
      revert hquote
      simp only [quotes, List.mem_cons, List.not_mem_nil, or_false]
      rintro (rfl | rfl) <;> decide +kernel
    have hpart : partAfter quote (body ++ quote :: (s ++ rest)) = (body ++ [quote], s ++ rest) := by
      rw [partAfter, if_pos (by simpa [quotes] using hquote), literal_body hbody hquote]
    rw [List.cons_append, List.append_assoc, List.cons_append, takeWord_cons hends hpart, ih,
      before_before]
    simp
  | @scope inner s hinner _ ih =>
    have hpart : partAfter '[' (inner ++ ']' :: (s ++ rest)) = (inner ++ [']'], s ++ rest) :=
      nested_balanced_closing (by decide) hinner _
    rw [List.cons_append, List.append_assoc, List.cons_append,
      takeWord_cons (by decide +kernel) hpart, ih, before_before]
    simp
  | @generics inner s hinner _ ih =>
    have hpart : partAfter '<' (inner ++ '>' :: (s ++ rest)) = (inner ++ ['>'], s ++ rest) :=
      nested_balanced_closing (by decide) hinner _
    rw [List.cons_append, List.append_assoc, List.cons_append,
      takeWord_cons (by decide +kernel) hpart, ih, before_before]
    simp

/-- A word without parts: no blank, quote or opening bracket is in it. -/
def IsPlainWord (s : List Char) : Prop :=
  ∀ c ∈ s, isBlank c = false ∧ c ∉ ['(', '[', '<', '\'', '"']

instance (s : List Char) : Decidable (IsPlainWord s) := inferInstanceAs (Decidable (∀ c ∈ s, _))

theorem IsPlainWord.isWord (h : IsPlainWord s) : IsWord s := by
  induction s with
  | nil => exact .nil
  | cons c s ih =>
    obtain ⟨⟨hblank, hmarks⟩, hs⟩ := List.forall_mem_cons.1 h
    simp only [List.mem_cons, List.not_mem_nil, or_false, not_or] at hmarks
    exact .char (by simp [endsWord, hblank, hmarks]) (by simp [quotes, hmarks])
      ⟨hmarks.2.1, hmarks.2.2.1⟩ (ih hs)

theorem IsWord.append (h : IsWord s) (ht : IsWord t) : IsWord (s ++ t) := by
  induction h with
  | nil => exact ht
  | char hends hquote hbracket _ ih => exact .char hends hquote hbracket ih
  | literal hquote hbody _ ih =>
    rw [List.cons_append, List.append_assoc]
    exact .literal hquote hbody ih
  | scope hinner _ ih =>
    rw [List.cons_append, List.append_assoc]
    exact .scope hinner ih
  | generics hinner _ ih =>
    rw [List.cons_append, List.append_assoc]
    exact .generics hinner ih

/-! ### Tokens -/

/-- A group as it is written. -/
def spelledGroup : Option String → List Char
  | none => []
  | some group => '(' :: (group.toList ++ [')'])

/-- A token as it is written. -/
def Token.spelled (token : Token) : List Char := token.word.toList ++ spelledGroup token.group

/-- A token that can be written: its word is read as one and begins no comment, its group is
balanced, and it has one of the two. -/
structure Token.IsProper (token : Token) : Prop where
  isWord : IsWord token.word.toList
  notComment : ¬['/', '/'] <+: token.word.toList ∧ ¬['/', '*'] <+: token.word.toList
  balanced : ∀ group ∈ token.group, Balanced '(' ')' group.toList
  ne_empty : token.word = "" → token.group ≠ none

/-- A token whose word and group are made of characters only. -/
def Token.IsPlain (token : Token) : Prop :=
  (IsPlainWord token.word.toList ∧ token.word.toList.head? ≠ some '/') ∧
    (∀ group ∈ token.group, ∀ c ∈ group.toList, c ∉ ['\'', '"', '(', ')', '/']) ∧
    (token.word = "" → token.group ≠ none)

instance : DecidablePred Token.IsPlain := fun _ => inferInstanceAs (Decidable (_ ∧ _))

theorem Token.IsPlain.isProper {token : Token} (h : token.IsPlain) : token.IsProper where
  isWord := h.1.1.isWord
  notComment := by
    have hslash := h.1.2
    constructor
    all_goals
      rintro ⟨more, hmore⟩
      exact hslash (by rw [← hmore]; rfl)
  balanced group hgroup := by
    refine balanced_of_forall_not_mem fun c hc => ?_
    have hmarks := h.2.1 group hgroup c hc
    simp only [List.mem_cons, List.not_mem_nil, or_false, not_or] at hmarks
    simp [quotes, hmarks]
  ne_empty := h.2.2

/-- A text that spells the tokens and goes on with the `rest`. -/
inductive Spells (rest : List Char) : List Token → List Char → Prop
  | done : Spells rest [] rest
  | blank {c : Char} {tokens : List Token} {s : List Char} (hblank : isBlank c = true)
    (hs : Spells rest tokens s) : Spells rest tokens (c :: s)
  | lineComment {body : List Char} {tokens : List Token} {s : List Char} (hbody : '\n' ∉ body)
    (hnext : ∀ c ∈ s.head?, c = '\n') (hs : Spells rest tokens s) :
    Spells rest tokens ('/' :: '/' :: (body ++ s))
  | blockComment {body : List Char} {tokens : List Token} {s : List Char}
    (hbody : ¬['*', '/'] <:+: body) (hs : Spells rest tokens s) :
    Spells rest tokens ('/' :: '*' :: (body ++ '*' :: '/' :: s))
  /-- A word without a group needs a blank behind it. -/
  | token {token : Token} {tokens : List Token} {s : List Char} (htoken : token.IsProper)
    (hnext : token.group = none → ∀ c ∈ s.head?, isBlank c = true)
    (hs : Spells rest tokens s) : Spells rest (token :: tokens) (token.spelled ++ s)

theorem afterBlockComment_body (h : ¬['*', '/'] <:+: s) (rest : List Char) :
    afterBlockComment (s ++ '*' :: '/' :: rest) = rest := by
  induction s with
  | nil => simp [afterBlockComment]
  | cons c s ih =>
    have hs : ¬['*', '/'] <:+: s := fun hin => h (hin.trans (List.suffix_cons c s).isInfix)
    have hopen : ¬(c = '*' ∧ (s ++ '*' :: '/' :: rest).head? = some '/') := by
      rintro ⟨rfl, hhead⟩
      cases s with
      | nil => simp at hhead
      | cons d s =>
        cases hhead
        exact h ⟨[], s, rfl⟩
    rw [List.cons_append, afterBlockComment, if_neg hopen, ih hs]

theorem dropWhile_body (h : '\n' ∉ s) (hrest : ∀ c ∈ rest.head?, c = '\n') :
    (s ++ rest).dropWhile (· ≠ '\n') = rest := by
  have hbody : ∀ c ∈ s, (decide (c ≠ '\n')) = true := by
    intro c hc
    exact decide_eq_true fun heq => h (heq ▸ hc)
  rw [List.dropWhile_append_of_pos hbody]
  cases rest with
  | nil => rfl
  | cons c rest => exact List.dropWhile_cons_of_neg (by simp [hrest c rfl])

theorem IsWord.isBlank_head {c : Char} (h : IsWord (c :: s)) : isBlank c = false := by
  cases h with
  | char hends => exact (Bool.or_eq_false_iff.1 hends).1
  | literal hquote =>
    revert hquote
    simp only [quotes, List.mem_cons, List.not_mem_nil, or_false]
    rintro (rfl | rfl) <;> decide +kernel
  | scope => decide +kernel
  | generics => decide +kernel

theorem takeWord_of_endsWord (h : ∀ c ∈ rest.head?, endsWord c = true) :
    takeWord rest = ([], rest) := by
  cases rest with
  | nil => rw [takeWord]
  | cons c rest => rw [takeWord, if_pos (h c rfl)]

section

variable {group : Option String}
  (hnext : group = none → ∀ c ∈ rest.head?, isBlank c = true)
include hnext

/-- Behind a word stands its group, a blank or nothing. -/
theorem endsWord_spelledGroup : ∀ c ∈ (spelledGroup group ++ rest).head?, endsWord c = true := by
  intro c hc
  cases group with
  | none => rw [endsWord, hnext rfl c hc, Bool.true_or]
  | some group =>
    cases hc
    exact Bool.or_true _

theorem takeGroup_spelledGroup (hbalanced : ∀ g ∈ group, Balanced '(' ')' g.toList) :
    takeGroup (spelledGroup group ++ rest) = (group.map String.toList, rest) := by
  cases group with
  | none =>
    cases rest with
    | nil => rfl
    | cons c rest =>
      have hparen : c ≠ '(' := ne_of_isBlank (hnext rfl c rfl) (by decide +kernel)
      rw [spelledGroup, List.nil_append, takeGroup, if_neg hparen]
      rfl
  | some group =>
    have hclosed := nested_balanced_closing (by decide) (hbalanced group rfl) rest
    rw [spelledGroup, List.cons_append, List.append_assoc, List.singleton_append, takeGroup,
      if_pos rfl, hclosed]
    dsimp only
    rw [List.dropLast_concat]
    rfl

end

/-- A token that is not empty and begins neither as a blank nor as a comment does. -/
structure Token.Begins (token : Token) : Prop where
  notBlank : ∀ c ∈ token.word.toList.head?, isBlank c = false
  notComment : ¬['/', '/'] <+: token.word.toList ∧ ¬['/', '*'] <+: token.word.toList
  ne_empty : token.word = "" → token.group ≠ none

theorem Token.IsProper.begins {token : Token} (h : token.IsProper) : token.Begins where
  notBlank c hc := by
    obtain ⟨word, hword⟩ := List.head?_eq_some_iff.1 hc
    exact IsWord.isBlank_head (hword ▸ h.isWord)
  notComment := h.notComment
  ne_empty := h.ne_empty

section

variable {token : Token} (hnext : token.group = none → ∀ c ∈ rest.head?, isBlank c = true)
include hnext

/-- So does the text of which it is read. -/
theorem exists_spelled_cons (hbegins : token.Begins) :
    ∃ c more, token.spelled ++ rest = c :: more ∧ isBlank c = false ∧
      ∀ d, d = '/' ∨ d = '*' → ¬(c = '/' ∧ more.head? = some d) := by
  have hbehind := endsWord_spelledGroup hnext
  rw [Token.spelled, List.append_assoc]
  cases hword : token.word.toList with
  | nil =>
    have hempty : token.word = "" := String.toList_inj.1 hword
    obtain ⟨group, hgroup⟩ := Option.ne_none_iff_exists'.1 (hbegins.ne_empty hempty)
    rw [hgroup]
    exact ⟨'(', _, rfl, by decide +kernel, by simp⟩
  | cons c word =>
    have hslash := hbegins.notComment
    rw [hword] at hslash
    refine ⟨c, word ++ (spelledGroup token.group ++ rest), rfl,
      hbegins.notBlank c (by rw [hword]; rfl), ?_⟩
    rintro d hd ⟨rfl, hhead⟩
    cases word with
    | nil =>
      -- Behind a word that is a slash alone stands no other, since the word ends there.
      have hends := hbehind d hhead
      rcases hd with rfl | rfl <;> revert hends <;> decide +kernel
    | cons e word =>
      cases hhead
      rcases hd with rfl | rfl
      · exact hslash.1 ⟨word, rfl⟩
      · exact hslash.2 ⟨word, rfl⟩

theorem tokenize_token (htoken : token.IsProper) :
    tokenize (token.spelled ++ rest) = token :: tokenize rest := by
  obtain ⟨c, more, hmore, hblank, hcomment⟩ := exists_spelled_cons hnext htoken.begins
  have hword : takeWord (c :: more) = (token.word.toList, spelledGroup token.group ++ rest) := by
    rw [← hmore, Token.spelled, List.append_assoc, takeWord_isWord htoken.isWord,
      takeWord_of_endsWord (endsWord_spelledGroup hnext), before, List.append_nil]
  have hgroup : (token.group.map String.toList).map String.ofList = token.group := by
    rw [Option.map_map]
    simp
  rw [hmore, tokenize, if_neg (by simp [hblank]), if_neg (hcomment '/' (.inl rfl)),
    if_neg (hcomment '*' (.inr rfl)), hword]
  dsimp only
  rw [takeGroup_spelledGroup hnext htoken.balanced, hgroup, String.ofList_toList]

end

/-- A text that spells tokens has these tokens, before those of what it goes on with. -/
theorem tokenize_spells {tokens : List Token} (h : Spells rest tokens s) :
    tokenize s = tokens ++ tokenize rest := by
  have hslash : isBlank '/' = false := by decide +kernel
  induction h with
  | done => rfl
  | blank hblank _ ih => rw [tokenize, if_pos hblank, ih]
  | lineComment hbody hnext _ ih =>
    rw [tokenize, if_neg (by simp [hslash]), if_pos ⟨rfl, rfl⟩,
      List.dropWhile_cons_of_pos (by decide), dropWhile_body hbody hnext, ih]
  | blockComment hbody _ ih =>
    rw [tokenize, if_neg (by simp [hslash]), if_neg (by simp), if_pos ⟨rfl, rfl⟩, List.drop_one,
      List.tail_cons, afterBlockComment_body hbody, ih]
  | token htoken hnext _ ih => rw [tokenize_token hnext htoken, ih, List.cons_append]

/-- A text that spells words has these words. -/
theorem map_word_tokenize {words : List String} (h : Spells [] (words.map (⟨·, none⟩)) s) :
    (tokenize s).map (·.word) = words := by
  have hword : (Token.word ∘ fun word => ⟨word, none⟩) = id := rfl
  rw [tokenize_spells h, tokenize, List.append_nil, List.map_map, hword, List.map_id]

/-- Tokens with blanks behind each are spelled before what follows them. -/
theorem spells_spaced {parts : List (Token × List Char)}
    (h : ∀ part ∈ parts, part.1.IsProper ∧ part.2 ≠ [] ∧ ∀ c ∈ part.2, isBlank c = true)
    {tokens : List Token} (hs : Spells rest tokens s) :
    Spells rest (parts.map Prod.fst ++ tokens)
      (parts.flatMap (fun part => part.1.spelled ++ part.2) ++ s) := by
  induction parts with
  | nil => exact hs
  | cons part parts ih =>
    obtain ⟨⟨hproper, hne, hblanks⟩, hparts⟩ := List.forall_mem_cons.1 h
    have hbehind {blanks s : List Char} (hblanks : ∀ c ∈ blanks, isBlank c = true)
        (hs : Spells rest (parts.map Prod.fst ++ tokens) s) :
        Spells rest (parts.map Prod.fst ++ tokens) (blanks ++ s) := by
      induction blanks with
      | nil => exact hs
      | cons c blanks ih =>
        obtain ⟨hc, hblanks⟩ := List.forall_mem_cons.1 hblanks
        exact .blank hc (ih hblanks)
    rw [List.flatMap_cons, List.append_assoc, List.append_assoc]
    refine .token hproper (fun _ c hc => ?_) (hbehind hblanks (ih hparts))
    obtain ⟨b, blanks, hb⟩ := List.exists_cons_of_ne_nil hne
    obtain rfl : b = c := by simpa [hb] using hc
    exact hblanks b (by simp [hb])

theorem spells_plain {parts : List (Token × List Char)}
    (h : ∀ part ∈ parts, part.1.IsPlain ∧ part.2 ≠ [] ∧ ∀ c ∈ part.2, isBlank c = true)
    {tokens : List Token} (hs : Spells rest tokens s) :
    Spells rest (parts.map Prod.fst ++ tokens)
      (parts.flatMap (fun part => part.1.spelled ++ part.2) ++ s) :=
  spells_spaced (fun part hpart => ⟨(h part hpart).1.isProper, (h part hpart).2⟩) hs

end PluginBuild.Listing
