import Mathlib.Tactic.ByContra
import PluginBuild.Proofs.Listing.Spelling
/-!
# Printed tokens

Proper tokens that are printed with a blank before whatever stands between them are read back as
they are (`tokenize_printed`). They are the only ones: what is read before a space as it is written
is a proper token (`isProper_iff_tokenize`). For a part that ends before the text does has been
closed, so that it is one that can be written (`balanced_iff_nested`, `isWord_takeWord`).
-/

namespace PluginBuild.Listing

open Text

variable {opening closing quote : Char} {depth : Nat} {s t gap rest : List Char}
  {tokens : List Token}

/-! ### What is read as closed -/

/-- A literal is closed, or it goes to the end of the text, as much so inside of brackets. -/
theorem exists_literalBody_or_open (quote : Char) (s : List Char) :
    (∃ body rest, LiteralBody quote body ∧ s = body ++ quote :: rest) ∨
      (literal quote s).2 = [] ∧ ∀ {opening closing : Char} {depth : Nat}, 0 < depth →
        (nested opening closing depth (.literal quote) s).2 = [] := by
  fun_induction literal quote s with
  | case1 => exact .inr ⟨rfl, fun _ => rfl⟩
  | case2 =>
    refine .inr ⟨rfl, fun hopen => ?_⟩
    rw [nested_cons (.escaped quote) (by simp [Inside.step]) (by simp [depthAfter]) hopen]
    rfl
  | case3 d rest more ih =>
    rcases ih with ⟨body, after, hbody, rfl⟩ | ⟨hliteral, hnested⟩
    · exact .inl ⟨'\\' :: d :: body, after, .escaped d hbody, rfl⟩
    · refine .inr ⟨hliteral, fun hopen => ?_⟩
      rw [nested_cons (.escaped quote) (by simp [Inside.step]) (by simp [depthAfter]) hopen,
        nested_cons (.literal quote) (by simp [Inside.step]) (by simp [depthAfter]) hopen]
      exact hnested hopen
  | case4 rest => exact .inl ⟨[], rest, .nil, rfl⟩
  | case5 c rest hescape hquote more ih =>
    rcases ih with ⟨body, after, hbody, rfl⟩ | ⟨hliteral, hnested⟩
    · exact .inl ⟨c :: body, after, .char hescape hquote hbody, rfl⟩
    · refine .inr ⟨hliteral, fun hopen => ?_⟩
      rw [nested_cons (.literal quote) (by simp [Inside.step, hescape, hquote])
        (by simp [depthAfter]) hopen]
      exact hnested hopen

theorem nested_openComment (hopen : 0 < depth) (h : '\n' ∉ s) :
    (nested opening closing depth .comment s).2 = [] := by
  induction s with
  | nil => rfl
  | cons c s ih =>
    rw [List.mem_cons, not_or] at h
    rw [nested_cons .comment (by simp [Inside.step, Ne.symm h.1]) (by simp [depthAfter]) hopen]
    exact ih h.2

theorem exists_nested_literal (hopen : 0 < depth) (hquote : quote ∈ quotes)
    (h : (nested opening closing depth .plain (quote :: s)).2 ≠ []) :
    ∃ body rest, LiteralBody quote body ∧ s = body ++ quote :: rest ∧
      nested opening closing depth .plain (quote :: s) =
        before (quote :: (body ++ [quote])) (nested opening closing depth .plain rest) := by
  rw [nested_cons _ (Inside.step_quote hquote _) (by simp [depthAfter]) hopen] at h ⊢
  obtain ⟨body, rest, hbody, rfl⟩ | ⟨-, hnil⟩ := exists_literalBody_or_open quote s
  · refine ⟨body, rest, hbody, rfl, ?_⟩
    rw [nested_literalBody hopen hbody hquote, before_before]
    rfl
  · exact absurd (hnil hopen) h

theorem exists_nested_comment (hopen : 0 < depth)
    (h : (nested opening closing depth .plain ('/' :: '/' :: s)).2 ≠ []) :
    ∃ body rest, '\n' ∉ body ∧ s = body ++ '\n' :: rest ∧
      nested opening closing depth .plain ('/' :: '/' :: s) =
        before ('/' :: '/' :: (body ++ ['\n'])) (nested opening closing depth .plain rest) := by
  rw [nested_cons .comment (by simp [Inside.step]) (by simp [depthAfter]) hopen,
    nested_cons .comment (by simp [Inside.step]) (by simp [depthAfter]) hopen, before_before] at h ⊢
  have hfeed : '\n' ∈ s := by
    by_contra hfeed
    exact h (nested_openComment hopen hfeed)
  obtain ⟨body, rest, rfl, hbody⟩ := List.eq_append_cons_of_mem hfeed
  refine ⟨body, rest, hbody, rfl, ?_⟩
  rw [nested_commentBody hopen hbody, before_before]
  rfl

/-- What closes so many brackets: balanced text before each closing one. -/
def Closes (opening closing : Char) : Nat → List Char → Prop
  | 0, s => s = []
  | depth + 1, s => ∃ inner after, Balanced opening closing inner ∧ s = inner ++ closing :: after ∧
    Closes opening closing depth after

theorem Closes.append (hopen : 0 < depth) (h : Closes opening closing depth t)
    (hfront : ∀ inner, Balanced opening closing inner → inner <+: t →
      Balanced opening closing (s ++ inner)) : Closes opening closing depth (s ++ t) := by
  cases depth with
  | zero => exact absurd hopen (Nat.lt_irrefl 0)
  | succ depth =>
    obtain ⟨inner, after, hinner, rfl, hafter⟩ := h
    exact ⟨s ++ inner, after, hfront inner hinner (List.prefix_append _ _),
      (List.append_assoc _ _ _).symm, hafter⟩

/-- Where a part in brackets ends before the text does, it goes on with something that can stand in
it, with an opening bracket, or with one that closes a bracket. -/
theorem nested_step (h : (nested opening closing (depth + 1) .plain s).2 ≠ []) :
    (∃ front rest, rest.length < s.length ∧
      nested opening closing (depth + 1) .plain s =
        before front (nested opening closing (depth + 1) .plain rest) ∧
      ∀ inner, Balanced opening closing inner →
        inner <+: (nested opening closing (depth + 1) .plain rest).1 →
          Balanced opening closing (front ++ inner)) ∨
    (∃ rest, rest.length < s.length ∧ nested opening closing (depth + 1) .plain s =
      before [opening] (nested opening closing (depth + 2) .plain rest)) ∨
    ∃ rest, rest.length < s.length ∧ nested opening closing (depth + 1) .plain s =
      if depth = 0 then ([closing], rest)
      else before [closing] (nested opening closing depth .plain rest) := by
  have hopen : 0 < depth + 1 := Nat.succ_pos depth
  cases s with
  | nil => exact absurd rfl h
  | cons c s =>
    by_cases hquote : c ∈ quotes
    · obtain ⟨body, rest, hbody, rfl, hread⟩ := exists_nested_literal hopen hquote h
      refine .inl ⟨_, rest, by simp; omega, hread, fun inner hinner _ => ?_⟩
      simpa using Balanced.literal hquote hbody hinner
    by_cases hcomment : c = '/' ∧ s.head? = some '/'
    · obtain ⟨rfl, hnext⟩ := hcomment
      obtain ⟨s, rfl⟩ := List.head?_eq_some_iff.1 hnext
      obtain ⟨body, rest, hbody, rfl, hread⟩ := exists_nested_comment hopen h
      refine .inl ⟨_, rest, by simp; omega, hread, fun inner hinner _ => ?_⟩
      simpa using Balanced.comment hbody hinner
    have hstep : Inside.step .plain c s.head? = .plain := Inside.step_plain hquote hcomment
    by_cases hc : c = opening
    · subst hc
      exact .inr (.inl ⟨s, by simp, nested_cons .plain hstep (by simp [depthAfter]) (by omega)⟩)
    by_cases hc' : c = closing
    · subst hc'
      refine .inr (.inr ⟨s, by simp, ?_⟩)
      have hdepth : depthAfter opening c (depth + 1) .plain .plain c = depth := by
        simp [depthAfter, hc]
      split
      · next hzero =>
        rw [nested, hstep, hdepth]
        exact if_pos hzero
      · next hpos => exact nested_cons .plain hstep hdepth (Nat.pos_of_ne_zero hpos)
    · refine .inl ⟨[c], s, by simp, nested_cons .plain hstep (by simp [depthAfter, hc, hc']) hopen,
        fun inner hinner hfront => .char hquote ⟨hc, hc'⟩ ?_ hinner⟩
      -- The text after a slash does not go on with another one, so nor does what is read of it.
      rintro ⟨rfl, hhead⟩
      refine hcomment ⟨rfl, ?_⟩
      obtain ⟨more, rfl⟩ := List.head?_eq_some_iff.1 hhead
      obtain ⟨after, hafter⟩ := hfront
      rw [← head?_nested opening closing (depth + 1) .plain s, ← hafter]
      rfl

/-- What is read up to the bracket that closes the outermost closes all of them. -/
theorem closes_nested :
    ∀ {depth : Nat} {s : List Char}, (nested opening closing (depth + 1) .plain s).2 ≠ [] →
      Closes opening closing (depth + 1) (nested opening closing (depth + 1) .plain s).1
  | depth, s, h => by
    rcases nested_step h with ⟨front, rest, hlength, hread, hfront⟩ | ⟨rest, hlength, hread⟩ |
      ⟨rest, hlength, hread⟩
    · rw [hread] at h ⊢
      exact (closes_nested h).append (Nat.succ_pos depth) hfront
    · -- One bracket more is open: its counterpart ends the first part of what closes them all.
      rw [hread] at h ⊢
      obtain ⟨inner, after, hinner, hinnerAfter, hafter⟩ := closes_nested h
      have hmore := hafter.append (s := opening :: (inner ++ [closing])) (Nat.succ_pos depth)
        fun more hmore _ => by simpa using Balanced.nested hinner hmore
      rw [before, hinnerAfter]
      simpa using hmore
    · rw [hread] at h ⊢
      cases depth with
      | zero => exact ⟨[], [], .nil, rfl, rfl⟩
      | succ depth => exact ⟨[], _, .nil, rfl, closes_nested h⟩
termination_by _ s => s.length

/-- What is read in brackets, where it ends before the text does, is balanced up to the bracket that
closes it. -/
theorem balanced_of_nested (h : (nested opening closing 1 .plain s).2 ≠ []) :
    ∃ inner, Balanced opening closing inner ∧
      (nested opening closing 1 .plain s).1 = inner ++ [closing] := by
  obtain ⟨inner, after, hinner, hread, rfl⟩ := closes_nested h
  exact ⟨inner, hinner, hread⟩

/-- Balanced is what goes, whatever stands behind it, up to the bracket that closes the one before
it. -/
theorem balanced_iff_nested (hpair : (opening, closing) ∈ brackets) :
    Balanced opening closing s ↔
      ∀ rest, nested opening closing 1 .plain (s ++ closing :: rest) = (s ++ [closing], rest) := by
  refine ⟨fun h => nested_balanced_closing hpair h, fun h => ?_⟩
  have hclosed := h [' ']
  have hleft : (nested opening closing 1 .plain (s ++ closing :: [' '])).2 ≠ [] := by
    rw [hclosed]
    simp
  obtain ⟨inner, hinner, hread⟩ := balanced_of_nested hleft
  rw [hclosed] at hread
  rwa [List.append_cancel_right hread]

/-- A character and what it draws along go before a word, if the text goes on behind them. -/
theorem isWord_partAfter {c : Char} (hends : endsWord c = false) (hpart : (partAfter c s).2 ≠ [])
    (h : IsWord t) : IsWord (c :: ((partAfter c s).1 ++ t)) := by
  unfold partAfter at hpart ⊢
  split at hpart
  · next hquote =>
    have hmem : c ∈ quotes := by simpa [quotes] using hquote
    rw [if_pos hquote]
    obtain ⟨body, rest, hbody, rfl⟩ | ⟨hnil, -⟩ := exists_literalBody_or_open c s
    · rw [literal_body hbody hmem, List.append_assoc]
      exact .literal hmem hbody h
    · exact absurd hnil hpart
  · next hquote =>
    rw [if_neg hquote]
    split at hpart
    · next hscope =>
      subst hscope
      obtain ⟨inner, hinner, hread⟩ := balanced_of_nested hpart
      rw [if_pos rfl, hread, List.append_assoc]
      exact .scope hinner h
    · next hscope =>
      rw [if_neg hscope]
      split at hpart
      · next hgenerics =>
        subst hgenerics
        obtain ⟨inner, hinner, hread⟩ := balanced_of_nested hpart
        rw [if_pos rfl, hread, List.append_assoc]
        exact .generics hinner h
      · next hgenerics =>
        rw [if_neg hgenerics]
        exact .char hends (by simpa [quotes] using hquote) ⟨hscope, hgenerics⟩ h

theorem isWord_takeWord (h : (takeWord s).2 ≠ []) : IsWord (takeWord s).1 := by
  fun_induction takeWord s with
  | case1 => exact .nil
  | case2 => exact .nil
  | case3 c rest hends part word ih =>
    have hpart : part.2 ≠ [] := ne_nil_of_takeWord h
    exact isWord_partAfter (Bool.eq_false_iff.2 hends) hpart (ih h)

/-! ### Tokens that are read -/

/-- Each token that is read is not empty and begins neither as a blank nor as a comment does. -/
theorem begins_of_mem_tokenize {token : Token} (h : token ∈ tokenize s) : token.Begins := by
  fun_induction tokenize s with
  | case1 => cases h
  | case2 c rest _ ih => exact ih h
  | case3 c rest _ _ ih => exact ih h
  | case4 c rest _ _ _ ih => exact ih h
  | case5 c rest hblank hline hblock word group ih =>
    rcases List.mem_cons.1 h with rfl | h
    · have hsplit : word.1 ++ word.2 = c :: rest := takeWord_append (c :: rest)
      have hword : word.1 <+: c :: rest := ⟨word.2, hsplit⟩
      have hstart {d : Char} (h : ['/', d] <+: word.1) : c = '/' ∧ rest.head? = some d := by
        obtain ⟨more, hmore⟩ := h.trans hword
        cases hmore
        exact ⟨rfl, rfl⟩
      refine ⟨fun d hd => ?_, ?_, fun hempty => ?_⟩
      · rw [String.toList_ofList] at hd
        obtain ⟨more, hmore⟩ := List.head?_eq_some_iff.1 hd
        rw [hmore] at hword
        rw [(List.cons_prefix_cons.1 hword).1]
        exact Bool.eq_false_iff.2 hblank
      · rw [String.toList_ofList]
        exact ⟨fun h => hline (hstart h), fun h => hblock (hstart h)⟩
      · have hnil : word.1 = [] := by simpa using congrArg String.toList hempty
        rw [hnil, List.nil_append] at hsplit
        have hends : endsWord c = true := endsWord_of_takeWord hsplit
        obtain rfl : c = '(' := by simpa [endsWord, hblank] using hends
        show (takeGroup word.2).1.map String.ofList ≠ none
        rw [hsplit, takeGroup, if_pos rfl]
        simp
    · exact ih h

/-- A group that is read before a space is balanced: it has not gone on over the space. -/
theorem balanced_of_takeGroup {group : String}
    (h : (takeGroup (spelledGroup (some group) ++ [' '])).1 = some group.toList) :
    Balanced '(' ')' group.toList := by
  rw [spelledGroup, List.cons_append, takeGroup, if_pos rfl, List.append_assoc] at h
  have hinside : (nested '(' ')' 1 .plain (group.toList ++ [')', ' '])).1.dropLast =
      group.toList := Option.some.inj h
  have hsplit := nested_append '(' ')' 1 .plain (group.toList ++ [')', ' '])
  have hleft : (nested '(' ')' 1 .plain (group.toList ++ [')', ' '])).2 ≠ [] := by
    intro hnil
    rw [hnil, List.append_nil] at hsplit
    rw [hsplit] at hinside
    simp at hinside
  obtain ⟨inner, hinner, hread⟩ := balanced_of_nested hleft
  rw [hread, List.dropLast_concat] at hinside
  exact hinside ▸ hinner

/-- The proper tokens are those that are read before a space as they are written. -/
theorem isProper_iff_tokenize {token : Token} :
    token.IsProper ↔ tokenize (token.spelled ++ [' ']) = [token] := by
  have hnext : token.group = none → ∀ c ∈ [' '].head?, isBlank c = true := by
    rintro - c ⟨⟩
    exact isBlank_space
  refine ⟨fun h => ?_, fun h => ?_⟩
  · rw [tokenize_token hnext h, tokenize, if_pos isBlank_space, tokenize]
  · have hbegins : token.Begins := begins_of_mem_tokenize (h ▸ List.mem_singleton_self token)
    obtain ⟨c, more, hmore, hblank, hcomment⟩ := exists_spelled_cons hnext hbegins
    rw [hmore, tokenize, if_neg (by simp [hblank]), if_neg (hcomment '/' (.inl rfl)),
      if_neg (hcomment '*' (.inr rfl))] at h
    obtain ⟨hfirst, -⟩ := List.cons.inj h
    have hword : (takeWord (c :: more)).1 = token.word.toList := by
      rw [← hfirst, String.toList_ofList]
    have hgroup : (takeGroup (takeWord (c :: more)).2).1 = token.group.map String.toList := by
      rw [← hfirst, Option.map_map]
      simp
    have hbehind : (takeWord (c :: more)).2 = spelledGroup token.group ++ [' '] := by
      have hsplit := (takeWord_append (c :: more)).trans hmore.symm
      rw [hword, Token.spelled, List.append_assoc] at hsplit
      exact List.append_cancel_left hsplit
    refine ⟨?_, hbegins.notComment, fun group hsome => ?_, hbegins.ne_empty⟩
    · rw [← hword]
      exact isWord_takeWord (by rw [hbehind]; simp)
    · rw [hbehind, Option.mem_def.1 hsome] at hgroup
      exact balanced_of_takeGroup hgroup

instance : DecidablePred Token.IsProper := fun _ => decidable_of_iff _ isProper_iff_tokenize.symm

/-! ### Printed tokens -/

/-- Blanks, line comments that a line feed ends, and closed block comments. -/
inductive IsGap : List Char → Prop
  | nil : IsGap []
  | blank {c : Char} {s : List Char} (hblank : isBlank c = true) (hs : IsGap s) : IsGap (c :: s)
  | lineComment {body s : List Char} (hbody : '\n' ∉ body) (hs : IsGap s) :
    IsGap ('/' :: '/' :: (body ++ '\n' :: s))
  | blockComment {body s : List Char} (hbody : ¬['*', '/'] <:+: body) (hs : IsGap s) :
    IsGap ('/' :: '*' :: (body ++ '*' :: '/' :: s))

/-- What stands between two tokens: blanks and comments, with a blank first. -/
def IsSeparator (s : List Char) : Prop := IsGap s ∧ ∃ c ∈ s.head?, isBlank c = true

/-- The text is the tokens as they are written, with separators between them. -/
inductive Prints : List Token → List Char → Prop
  | nil : Prints [] []
  | single (token : Token) : Prints [token] token.spelled
  | cons (token : Token) {next : Token} {tokens : List Token} {separator s : List Char}
    (hseparator : IsSeparator separator) (hs : Prints (next :: tokens) s) :
    Prints (token :: next :: tokens) (token.spelled ++ (separator ++ s))

theorem IsGap.spells (h : IsGap gap) (hs : Spells rest tokens s) :
    Spells rest tokens (gap ++ s) := by
  induction h with
  | nil => exact hs
  | blank hblank _ ih => exact .blank hblank ih
  | @lineComment body gap hbody _ ih =>
    have hcomment : Spells rest tokens ('/' :: '/' :: (body ++ '\n' :: (gap ++ s))) :=
      .lineComment hbody (by simp) (.blank isBlank_feed ih)
    simpa using hcomment
  | @blockComment body gap hbody _ ih =>
    have hcomment : Spells rest tokens ('/' :: '*' :: (body ++ '*' :: '/' :: (gap ++ s))) :=
      .blockComment hbody ih
    simpa using hcomment

theorem Prints.spells (h : Prints tokens s) (hproper : ∀ token ∈ tokens, token.IsProper) :
    Spells [] tokens s := by
  induction h with
  | nil => exact .done
  | single token =>
    rw [← List.append_nil token.spelled]
    exact .token (hproper token (by simp)) (by simp) .done
  | cons token hseparator _ ih =>
    obtain ⟨htoken, hrest⟩ := List.forall_mem_cons.1 hproper
    obtain ⟨hgap, b, hb, hblank⟩ := hseparator
    obtain ⟨blanks, rfl⟩ := List.head?_eq_some_iff.1 hb
    refine .token htoken (fun _ c hc => ?_) (hgap.spells (ih hrest))
    cases hc
    exact hblank

/-- Tokens that are printed with separators between them are the tokens of the text. No blank and no
parenthesis stands in their words outside of literals, scopes and generic arguments, and all of
these are closed, as are the groups. -/
theorem tokenize_printed (h : Prints tokens s) (hproper : ∀ token ∈ tokens, token.IsProper) :
    tokenize s = tokens := by
  rw [tokenize_spells (h.spells hproper), tokenize, List.append_nil]

/-- A word with a scope, generic arguments and a literal, with a group, between two plain words. -/
def methodTokens : List Token :=
  [⟨".method", none⟩, ⟨"[Sdk]Fs<'a b'>::Go", some "int32 i, (x)"⟩, ⟨"cil", none⟩]

theorem tokenize_printed_methodTokens :
    (Prints methodTokens ".method [Sdk]Fs<'a b'>::Go(int32 i, (x)) // (\n\t/* ' */cil".toList ∧
      ∀ token ∈ methodTokens, token.IsProper) ∧
    tokenize ".method [Sdk]Fs<'a b'>::Go(int32 i, (x)) // (\n\t/* ' */cil".toList =
      methodTokens := by
  have hproper : ∀ token ∈ methodTokens, token.IsProper := by decide +kernel
  have hblank {s : List Char} (hs : IsGap s) : IsGap (' ' :: s) := .blank isBlank_space hs
  have hblock : IsGap ('/' :: '*' :: (" ' ".toList ++ '*' :: '/' :: [])) :=
    .blockComment (by decide) .nil
  have hline : IsGap ('/' :: '/' :: (" (".toList ++ '\n' :: '\t' :: _)) :=
    .lineComment (by decide) (.blank (by decide +kernel) hblock)
  have hprints : Prints methodTokens (_ ++ ([' '] ++ (_ ++ (' ' :: _ ++ _)))) :=
    .cons _ ⟨hblank .nil, ' ', rfl, isBlank_space⟩
      (.cons _ ⟨hblank hline, ' ', rfl, isBlank_space⟩ (.single _))
  exact ⟨⟨hprints, hproper⟩, tokenize_printed hprints hproper⟩

/-- A word that leaves a literal open goes on over what follows it, though it has no blank and no
parenthesis in it. -/
theorem exists_open_word_misread :
    ∃ (tokens : List Token) (s : List Char), Prints tokens s ∧
      (∀ token ∈ tokens, token.Begins ∧ token.group = none ∧
        ∀ c ∈ token.word.toList, isBlank c = false ∧ c ≠ '(') ∧
      tokenize s = [⟨"a'b c", none⟩] ∧ tokenize s ≠ tokens := by
  have hread : tokenize "a'b c".toList = [⟨"a'b c", none⟩] := by decide +kernel
  refine ⟨[⟨"a'b", none⟩, ⟨"c", none⟩], "a'b c".toList, ?_, ?_, hread, ?_⟩
  · exact .cons _ ⟨.blank isBlank_space .nil, ' ', rfl, isBlank_space⟩ (.single _)
  · have hopen : ⟨"a'b", none⟩ ∈ tokenize "a'b".toList := by decide +kernel
    have hplain : ⟨"c", none⟩ ∈ tokenize "c".toList := by decide +kernel
    refine List.forall_mem_cons.2 ⟨⟨begins_of_mem_tokenize hopen, rfl, ?_⟩,
      List.forall_mem_singleton.2 ⟨begins_of_mem_tokenize hplain, rfl, ?_⟩⟩
    all_goals decide +kernel
  · rw [hread]
    decide

end PluginBuild.Listing
