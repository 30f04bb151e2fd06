import Mathlib.Tactic.ByContra
import PluginBuild.Proofs.Metadata.TypeName
/-!
# The one form of a type

What is left when a type is brought to its one form has no scopes, keywords or needless blanks in it
(`IsNormal`). It is made of words that are joined, with what belongs to a type put to the word
before it (`attach`), so that it is brought to itself again; and scopes, keywords and blanks that
are put before a word of the type come to nothing (`normalize_normalForm`).
-/

namespace PluginBuild.Metadata

open Listing Text

variable {s t front rest piece : List Char} {ws : List (List Char)}

/-! ### Words -/

/-- A word of a type: it has a character, no blank and is no keyword. -/
structure IsTypeWord (w : List Char) : Prop where
  ne_nil : w ≠ []
  unbroken : ∀ c ∈ w, isBlank c = false
  notKeyword : isTypeKeyword w = false

theorem IsTypeWord.space_notMem {w : List Char} (h : IsTypeWord w) : ' ' ∉ w := fun hmem =>
  Bool.false_ne_true ((h.unbroken _ hmem).symm.trans isBlank_space)

theorem isTypeWord_of_mem_words {w : List Char}
    (h : w ∈ (words s).filter (!isTypeKeyword ·)) : IsTypeWord w := by
  obtain ⟨hword, hkeyword⟩ := List.mem_filter.1 h
  obtain ⟨hne, hunbroken⟩ := of_mem_words hword
  exact ⟨hne, hunbroken, by simpa using hkeyword⟩

theorem words_joinWords (h : ∀ w ∈ ws, IsTypeWord w) : words (joinWords ws) = ws := by
  induction ws with
  | nil => rfl
  | cons w ws ih =>
    obtain ⟨hw, hws⟩ := List.forall_mem_cons.1 h
    cases ws with
    | nil =>
      have hword := words_append (t := []) hw.ne_nil hw.unbroken nofun
      rwa [List.append_nil] at hword
    | cons v ws =>
      rw [joinWords_cons w (by simp), words_append hw.ne_nil hw.unbroken (by simp [isBlank_space]),
        words_blank isBlank_space, ih hws]

theorem exists_joinWords_eq (w : List Char) (ws : List (List Char)) :
    ∃ more, joinWords (w :: ws) = w ++ more ∧ ∀ c ∈ more.head?, c = ' ' := by
  cases ws with
  | nil => exact ⟨[], by simp [joinWords], by simp⟩
  | cons v ws => exact ⟨_, rfl, by simp⟩

/-- A blank in joined words is a space with a word on either side. -/
theorem exists_word_of_blank {a b : List Char} {c : Char} (h : ∀ w ∈ ws, IsTypeWord w)
    (hjoin : joinWords ws = a ++ c :: b) (hc : isBlank c = true) :
    a ≠ [] ∧ c = ' ' ∧ ∃ v ∈ ws.tail, ∃ more, b = v ++ more ∧ ∀ d ∈ more.head?, d = ' ' := by
  induction ws generalizing a with
  | nil => simp [joinWords] at hjoin
  | cons w ws ih =>
    obtain ⟨hw, hws⟩ := List.forall_mem_cons.1 h
    have hout : c ∉ w := fun hmem => Bool.false_ne_true ((hw.unbroken c hmem).symm.trans hc)
    cases ws with
    | nil =>
      rw [joinWords] at hjoin
      exact absurd (hjoin ▸ List.mem_append_right a List.mem_cons_self) hout
    | cons v ws =>
      rw [joinWords_cons w (by simp)] at hjoin
      rcases List.append_eq_append_iff.1 hjoin with ⟨behind, rfl, hrest⟩ | ⟨word, rfl, hrest⟩
      · cases behind with
        | nil =>
          obtain ⟨rfl, rfl⟩ := List.cons.inj hrest
          obtain ⟨more, hmore, hspace⟩ := exists_joinWords_eq v ws
          exact ⟨by simpa using hw.ne_nil, rfl, v, by simp, more, hmore, hspace⟩
        | cons d behind =>
          obtain ⟨-, hmore⟩ := List.cons.inj hrest
          obtain ⟨-, hspace, u, hu, hmore'⟩ := ih hws hmore
          exact ⟨by simp, hspace, u, List.mem_cons_of_mem v hu, hmore'⟩
      · cases word with
        | nil =>
          obtain ⟨rfl, rfl⟩ := List.cons.inj hrest
          obtain ⟨more, hmore, hspace⟩ := exists_joinWords_eq v ws
          exact ⟨by simpa using hw.ne_nil, rfl, v, by simp, more, hmore, hspace⟩
        | cons d word =>
          obtain ⟨rfl, -⟩ := List.cons.inj hrest
          exact absurd (by simp) hout

/-! ### Closing up -/

/-- The words with those that begin with `piece` put to the end of the word before them. -/
def attach (piece : List Char) : List (List Char) → List (List Char)
  | [] => []
  | [w] => [w]
  | w :: v :: ws =>
    if piece.isPrefixOf v then (attach piece (v :: ws)).modifyHead (w ++ ·)
    else w :: attach piece (v :: ws)

/-- What belongs to the type before it and stands directly behind it. -/
def pieces : List (List Char) := [['&'], ['*'], "[]".toList]

theorem exists_of_mem_pieces (h : piece ∈ pieces) :
    ∃ c more, piece = c :: more ∧ c ∉ more ∧ c ∉ "class".toList ∧ c ∉ "valuetype".toList ∧
      ' ' ∉ piece := by
  simp only [pieces, List.mem_cons, List.not_mem_nil, or_false] at h
  rcases h with rfl | rfl | rfl
  · exact ⟨'&', [], by decide⟩
  · exact ⟨'*', [], by decide⟩
  · exact ⟨'[', [']'], by decide⟩

/-- What begins two texts put together and does not begin the first one goes on in the second. -/
theorem exists_of_prefix_append (h : piece <+: s ++ t) (hs : ¬piece <+: s) :
    ∃ c more, piece = s ++ c :: more ∧ t.head? = some c := by
  obtain ⟨behind, hbehind⟩ := h
  rcases List.append_eq_append_iff.1 hbehind with ⟨more, hmore, -⟩ | ⟨more, rfl, hmore⟩
  · exact absurd ⟨more, hmore.symm⟩ hs
  · cases more with
    | nil => simp at hs
    | cons c more => exact ⟨c, more, rfl, by rw [hmore]; rfl⟩

theorem prefix_joinWords_iff (hpiece : ' ' ∉ piece) (w : List Char) (ws : List (List Char)) :
    piece <+: joinWords (w :: ws) ↔ piece <+: w := by
  obtain ⟨more, hmore, hspace⟩ := exists_joinWords_eq w ws
  rw [hmore]
  refine ⟨fun h => ?_, fun h => h.trans (List.prefix_append w more)⟩
  by_contra hw
  obtain ⟨c, rest, rfl, hc⟩ := exists_of_prefix_append h hw
  exact hpiece (by simp [hspace c hc])

theorem joinWords_modifyHead (w : List Char) (hws : ws ≠ []) :
    joinWords (ws.modifyHead (w ++ ·)) = w ++ joinWords ws := by
  obtain ⟨v, ws, rfl⟩ := List.exists_cons_of_ne_nil hws
  cases ws with
  | nil => rfl
  | cons u ws => simp [joinWords]

/-- The first word stays in front, with a piece behind it if any has come, and of the others each
was no piece before. -/
theorem exists_attach_eq (piece w : List Char) (ws : List (List Char)) :
    ∃ more others, attach piece (w :: ws) = (w ++ more) :: others ∧ (more = [] ∨ piece <+: more) ∧
      ∀ u ∈ others, ∃ v ∈ ws, ∃ more, u = v ++ more ∧ ¬piece <+: v ∧
        (more = [] ∨ piece <+: more) := by
  induction ws generalizing w with
  | nil => exact ⟨[], [], by simp [attach]⟩
  | cons v ws ih =>
    obtain ⟨more, others, hattach, hmore, hothers⟩ := ih v
    have hothers' : ∀ u ∈ others, ∃ v' ∈ v :: ws, ∃ more, u = v' ++ more ∧ ¬piece <+: v' ∧
        (more = [] ∨ piece <+: more) := by
      intro u hu
      obtain ⟨v', hv', hrest⟩ := hothers u hu
      exact ⟨v', List.mem_cons_of_mem v hv', hrest⟩
    rw [attach, hattach]
    split
    · next hpiece =>
      rw [List.isPrefixOf_iff_prefix] at hpiece
      exact ⟨v ++ more, others, rfl, .inr (hpiece.trans (List.prefix_append v more)), hothers'⟩
    · next hpiece =>
      rw [List.isPrefixOf_iff_prefix] at hpiece
      refine ⟨[], (v ++ more) :: others, by simp, .inl rfl, List.forall_mem_cons.2 ⟨?_, hothers'⟩⟩
      exact ⟨v, List.mem_cons_self, more, rfl, hpiece, hmore⟩

theorem closeUp_joinWords (hpiece : piece ∈ pieces) (h : ∀ w ∈ ws, IsTypeWord w) :
    closeUp piece (joinWords ws) = joinWords (attach piece ws) := by
  obtain ⟨-, -, -, -, -, -, hspace⟩ := exists_of_mem_pieces hpiece
  induction ws with
  | nil => rfl
  | cons w ws ih =>
    obtain ⟨hw, hws⟩ := List.forall_mem_cons.1 h
    cases ws with
    | nil =>
      have hword := closeUp_append hw.space_notMem piece []
      rwa [List.append_nil, closeUp, List.append_nil] at hword
    | cons v ws =>
      obtain ⟨more, others, hattach, -⟩ := exists_attach_eq piece v ws
      have hbegins : piece.isPrefixOf (joinWords (v :: ws)) = piece.isPrefixOf v := by
        rw [Bool.eq_iff_iff, List.isPrefixOf_iff_prefix, List.isPrefixOf_iff_prefix,
          prefix_joinWords_iff hspace]
      rw [joinWords_cons w (by simp), closeUp_append hw.space_notMem, closeUp, hbegins, ih hws,
        attach]
      split
      · next hjoined => rw [if_pos hjoined.2, joinWords_modifyHead w (by simp [hattach])]
      · next hjoined =>
        rw [if_neg fun hv => hjoined ⟨rfl, hv⟩, joinWords_cons w (by simp [hattach])]

/-- A piece makes no keyword of the word that it is put to. -/
theorem IsTypeWord.append {w v : List Char} (hw : IsTypeWord w) (hv : IsTypeWord v)
    (hpiece : piece ∈ pieces) (hbegins : piece <+: v) : IsTypeWord (w ++ v) := by
  obtain ⟨c, more, rfl, -, hclass, hvaluetype, -⟩ := exists_of_mem_pieces hpiece
  have hc : c ∈ w ++ v := List.mem_append_right w (hbegins.subset List.mem_cons_self)
  refine ⟨by simp [hw.ne_nil], List.forall_mem_append.2 ⟨hw.unbroken, hv.unbroken⟩, ?_⟩
  rw [isTypeKeyword, Bool.or_eq_false_iff, beq_eq_false_iff_ne, beq_eq_false_iff_ne]
  exact ⟨fun h => hclass (h ▸ hc), fun h => hvaluetype (h ▸ hc)⟩

theorem isTypeWord_attach (hpiece : piece ∈ pieces) (h : ∀ w ∈ ws, IsTypeWord w) :
    ∀ u ∈ attach piece ws, IsTypeWord u := by
  induction ws with
  | nil => exact nofun
  | cons w ws ih =>
    obtain ⟨hw, hws⟩ := List.forall_mem_cons.1 h
    cases ws with
    | nil => simpa [attach] using hw
    | cons v ws =>
      obtain ⟨more, others, hattach, -⟩ := exists_attach_eq piece v ws
      have hrest := ih hws
      rw [hattach] at hrest
      obtain ⟨hfirst, hothers⟩ := List.forall_mem_cons.1 hrest
      rw [attach, hattach]
      split
      · next hbegins =>
        rw [List.isPrefixOf_iff_prefix] at hbegins
        refine List.forall_mem_cons.2 ⟨?_, hothers⟩
        exact hw.append hfirst hpiece (hbegins.trans (List.prefix_append v more))
      · exact List.forall_mem_cons.2 ⟨hw, hrest⟩

/-- No word but the first one begins with the piece. -/
def Apart (piece : List Char) (ws : List (List Char)) : Prop := ∀ u ∈ ws.tail, ¬piece <+: u

theorem apart_attach (hpiece : piece ∈ pieces) (h : ∀ w ∈ ws, IsTypeWord w) :
    Apart piece (attach piece ws) := by
  obtain ⟨c, more, rfl, hmore, -⟩ := exists_of_mem_pieces hpiece
  cases ws with
  | nil => exact nofun
  | cons w ws =>
    obtain ⟨first, others, hattach, -, hothers⟩ := exists_attach_eq (c :: more) w ws
    rw [Apart, hattach]
    intro u hu hbegins
    obtain ⟨v, hv, behind, rfl, hnot, hbehind⟩ := hothers u hu
    obtain ⟨d, rest, hsplit, hd⟩ := exists_of_prefix_append hbegins hnot
    -- What goes on in the piece behind the word would be the first character of another one.
    obtain ⟨e, word, rfl⟩ := List.exists_cons_of_ne_nil (h v (by simp [hv])).ne_nil
    obtain ⟨rfl, rfl⟩ := List.cons.inj hsplit
    rcases hbehind with rfl | ⟨others, rfl⟩
    · cases hd
    · cases hd
      exact hmore (by simp)

theorem apart_attach_of_apart {c : Char} (h : ∀ w ∈ ws, w ≠ []) (hapart : Apart [c] ws)
    (piece : List Char) : Apart [c] (attach piece ws) := by
  cases ws with
  | nil => exact nofun
  | cons w ws =>
    obtain ⟨first, others, hattach, -, hothers⟩ := exists_attach_eq piece w ws
    rw [Apart, hattach]
    intro u hu hbegins
    obtain ⟨v, hv, behind, rfl, -⟩ := hothers u hu
    obtain ⟨d, word, rfl⟩ := List.exists_cons_of_ne_nil (h v (by simp [hv]))
    refine hapart (d :: word) hv ?_
    simpa using hbegins

/-- The one form of a type is words joined by spaces, with what belongs to a word closed up. -/
theorem exists_normalize_eq (s : List Char) :
    ∃ ws, normalize s = joinWords ws ∧ (∀ w ∈ ws, IsTypeWord w) ∧
      ∀ piece ∈ pieces, Apart piece ws := by
  have hwords : ∀ w ∈ (words (dropScopes s)).filter (!isTypeKeyword ·), IsTypeWord w :=
    fun w hw => isTypeWord_of_mem_words hw
  have hand : ['&'] ∈ pieces := by decide
  have hstar : ['*'] ∈ pieces := by decide
  have harray : "[]".toList ∈ pieces := by decide
  have hand' := isTypeWord_attach hand hwords
  have hstar' := isTypeWord_attach hstar hand'
  refine ⟨_, ?_, isTypeWord_attach harray hstar', ?_⟩
  · rw [normalize, closeUp_joinWords hand hwords, closeUp_joinWords hstar hand',
      closeUp_joinWords harray hstar']
  · -- What is put to a word later leaves its beginning, so that the pieces before stay apart.
    simp only [pieces, List.forall_mem_cons]
    refine ⟨?_, ?_, apart_attach harray hstar', by simp⟩
    · exact apart_attach_of_apart (fun w hw => (hstar' w hw).ne_nil)
        (apart_attach_of_apart (fun w hw => (hand' w hw).ne_nil) (apart_attach hand hwords) _) _
    · exact apart_attach_of_apart (fun w hw => (hstar' w hw).ne_nil) (apart_attach hstar hand') _

/-! ### Scopes -/

/-- No bracket that is closed holds a scope. The characters read since an opening bracket come last
first. -/
def Unscoped : Option (List Char) → List Char → Prop
  | _, [] => True
  | none, c :: rest => if c = '[' then Unscoped (some []) rest else Unscoped none rest
  | some inner, c :: rest =>
    if c = ']' then isArrayBounds inner = true ∧ Unscoped none rest
    else Unscoped (some (c :: inner)) rest

/-- What stands in a text before the part of it in which a bracket may be open. -/
def opened : Option (List Char) → List Char
  | none => []
  | some inner => '[' :: inner.reverse

theorem Unscoped.dropScopesFrom_eq {inside : Option (List Char)} (h : Unscoped inside s) :
    dropScopesFrom inside s = opened inside ++ s := by
  induction s generalizing inside with
  | nil => cases inside <;> simp [dropScopesFrom, opened]
  | cons c s ih =>
    cases inside with
    | none =>
      rw [Unscoped] at h
      rw [dropScopesFrom]
      split
      · next hc => rw [if_pos hc] at h; rw [ih h, hc]; rfl
      · next hc => rw [if_neg hc] at h; rw [ih h]; rfl
    | some inner =>
      rw [Unscoped] at h
      rw [dropScopesFrom]
      split
      · next hc =>
        rw [if_pos hc] at h
        rw [if_pos h.1, ih h.2, hc]
        simp [opened]
      · next hc =>
        rw [if_neg hc] at h
        rw [ih h]
        simp [opened]

theorem unscoped_append_iff (h : ']' ∉ s) (inner t : List Char) :
    Unscoped (some inner) (s ++ t) ↔ Unscoped (some (s.reverse ++ inner)) t := by
  induction s generalizing inner with
  | nil => rfl
  | cons c s ih =>
    rw [List.mem_cons, not_or] at h
    rw [List.cons_append, Unscoped, if_neg (Ne.symm h.1), ih h.2]
    simp

/-- What is left without scopes has none. -/
theorem unscoped_dropScopesFrom {inside : Option (List Char)}
    (hinside : ∀ inner ∈ inside, ']' ∉ inner) (s : List Char) :
    Unscoped none (dropScopesFrom inside s) := by
  have hopened {inner : List Char} (h : ']' ∉ inner) (t : List Char) :
      Unscoped none ('[' :: (inner.reverse ++ t)) ↔ Unscoped (some inner) t := by
    rw [Unscoped, if_pos rfl, unscoped_append_iff (by simpa using h)]
    simp
  induction s generalizing inside with
  | nil =>
    cases inside with
    | none => trivial
    | some inner =>
      have hnil := (hopened (hinside inner rfl) []).2 trivial
      rwa [List.append_nil] at hnil
  | cons c s ih =>
    cases inside with
    | none =>
      rw [dropScopesFrom]
      split
      · exact ih (by simp)
      · next hc =>
        rw [Unscoped, if_neg hc]
        exact ih (by simp)
    | some inner =>
      have hinner : ']' ∉ inner := hinside inner rfl
      rw [dropScopesFrom]
      split
      · by_cases hbounds : isArrayBounds inner = true
        · rw [if_pos hbounds, List.append_assoc, List.cons_append, hopened hinner,
            List.singleton_append, Unscoped, if_pos rfl]
          exact ⟨hbounds, ih (by simp)⟩
        · rw [if_neg hbounds]
          exact ih (by simp)
      · next hc => exact ih (by simpa [hinner] using Ne.symm hc)

/-- A text in which blanks have been made spaces, and characters other than brackets left out. -/
inductive Thinned : List Char → List Char → Prop
  | nil : Thinned [] []
  | keep (c : Char) {s t : List Char} (h : Thinned s t) : Thinned (c :: s) (c :: t)
  | space {c : Char} {s t : List Char} (hc : isBlank c = true) (h : Thinned s t) :
    Thinned (c :: s) (' ' :: t)
  | leave {c : Char} {s t : List Char} (hc : c ≠ '[' ∧ c ≠ ']') (h : Thinned s t) :
    Thinned (c :: s) t

theorem Thinned.append_left (h : Thinned s t) (w : List Char) : Thinned (w ++ s) (w ++ t) := by
  induction w with
  | nil => exact h
  | cons c w ih => exact .keep c ih

theorem Thinned.leave_append (h : Thinned s t) {w : List Char}
    (hw : ∀ c ∈ w, c ≠ '[' ∧ c ≠ ']') : Thinned (w ++ s) t := by
  induction w with
  | nil => exact h
  | cons c w ih =>
    obtain ⟨hc, hw⟩ := List.forall_mem_cons.1 hw
    exact .leave hc (ih hw)

theorem blank_ne_bracket {c : Char} (hc : isBlank c = true) : c ≠ '[' ∧ c ≠ ']' :=
  ⟨ne_of_isBlank hc (by decide +kernel), ne_of_isBlank hc (by decide +kernel)⟩

theorem thinned_closeUp (piece s : List Char) : Thinned s (closeUp piece s) := by
  induction s with
  | nil => exact .nil
  | cons c s ih =>
    rw [closeUp]
    split
    · next hspace => exact .leave (blank_ne_bracket (hspace.1 ▸ isBlank_space)) ih
    · exact .keep c ih

/-- Words that are no keywords, joined by spaces, are thinned out of the text that they stand in. -/
theorem thinned_joinWords (s : List Char) :
    Thinned s (joinWords ((words s).filter (!isTypeKeyword ·))) := by
  cases s with
  | nil => exact .nil
  | cons c s =>
    by_cases hc : isBlank c = true
    · rw [words_blank hc]
      exact .leave (blank_ne_bracket hc) (thinned_joinWords s)
    · obtain ⟨w, rest, hsplit, hne, hword, hrest⟩ := exists_word (Bool.eq_false_iff.2 hc) s
      have hlength : rest.length < (c :: s).length := by
        have hpos := List.length_pos_iff.2 hne
        rw [hsplit, List.length_append]
        omega
      rw [hsplit, words_append hne hword hrest]
      by_cases hkeyword : isTypeKeyword w = true
      · rw [List.filter_cons_of_neg (by simp [hkeyword])]
        refine (thinned_joinWords rest).leave_append fun d hd => ?_
        rw [isTypeKeyword, Bool.or_eq_true, beq_iff_eq, beq_iff_eq] at hkeyword
        rcases hkeyword with rfl | rfl <;> revert d <;> decide
      · rw [List.filter_cons_of_pos (by simp [hkeyword])]
        cases rest with
        | nil =>
          have hleft := Thinned.nil.append_left w
          rwa [List.append_nil] at hleft ⊢
        | cons b rest =>
          have hb : isBlank b = true := hrest b rfl
          have hmore := thinned_joinWords rest
          rw [words_blank hb]
          -- The blank becomes the space before the next word, if there is one.
          cases hkept : (words rest).filter (!isTypeKeyword ·) with
          | nil =>
            rw [hkept] at hmore
            have hleft := (Thinned.leave (blank_ne_bracket hb) hmore).append_left w
            rwa [joinWords, List.append_nil] at hleft
          | cons v more =>
            rw [hkept] at hmore
            exact (Thinned.space hb hmore).append_left w
termination_by s.length
decreasing_by
  · simp
  · exact hlength
  · exact Nat.lt_trans (Nat.lt_succ_self _) hlength

/-- A text is without scopes still when it is thinned out: what stands in a bracket are array bounds
as before. -/
theorem Thinned.unscoped (h : Thinned s t) {inside inside' : Option (List Char)}
    (hinside : Option.Rel (fun inner inner' => ∀ c ∈ inner', c ∈ inner ∨ c = ' ') inside inside')
    (hs : Unscoped inside s) : Unscoped inside' t := by
  have hcons {c d : Char} {inner inner' : List Char} (hinner : ∀ c ∈ inner', c ∈ inner ∨ c = ' ')
      (hd : d = c ∨ d = ' ') : ∀ e ∈ d :: inner', e ∈ c :: inner ∨ e = ' ' := by
    refine List.forall_mem_cons.2 ⟨?_, fun e he => (hinner e he).imp_left (List.mem_cons_of_mem c)⟩
    exact hd.imp_left fun heq => by simp [heq]
  induction h generalizing inside inside' with
  | nil => cases inside' <;> trivial
  | @keep c s t _ ih =>
    cases hinside with
    | none =>
      rw [Unscoped] at hs ⊢
      split at hs
      · next hc => rw [if_pos hc]; exact ih (.some (by simp)) hs
      · next hc => rw [if_neg hc]; exact ih .none hs
    | @some inner inner' hinner =>
      rw [Unscoped] at hs ⊢
      split at hs
      · next hc =>
        rw [if_pos hc]
        refine ⟨?_, ih .none hs.2⟩
        rw [isArrayBounds, List.all_eq_true]
        intro d hd
        rcases hinner d hd with hmem | rfl
        · exact List.all_eq_true.1 hs.1 d hmem
        · decide
      · next hc => rw [if_neg hc]; exact ih (.some (hcons hinner (.inl rfl))) hs
  | space hc _ ih =>
    obtain ⟨hopen, hclose⟩ := blank_ne_bracket hc
    cases hinside with
    | none =>
      rw [Unscoped, if_neg hopen] at hs
      exact ih .none hs
    | some hinner =>
      rw [Unscoped, if_neg hclose] at hs
      exact ih (.some (hcons hinner (.inr rfl))) hs
  | leave hc _ ih =>
    cases hinside with
    | none =>
      rw [Unscoped, if_neg hc.1] at hs
      exact ih .none hs
    | some hinner =>
      rw [Unscoped, if_neg hc.2] at hs
      exact ih (.some fun e he => (hinner e he).imp_left (List.mem_cons_of_mem _)) hs

theorem dropScopes_normalize (s : List Char) : dropScopes (normalize s) = normalize s := by
  have hdropped : Unscoped none (dropScopesFrom none s) := unscoped_dropScopesFrom (by simp) s
  have hjoined := (thinned_joinWords _).unscoped .none hdropped
  have hand := (thinned_closeUp ['&'] _).unscoped .none hjoined
  have hstar := (thinned_closeUp ['*'] _).unscoped .none hand
  exact ((thinned_closeUp "[]".toList _).unscoped .none hstar).dropScopesFrom_eq

/-! ### The normal form -/

/-- Types in their one form: no blank is at either end, behind another one or before what belongs to
the type in front of it, and no word is a keyword. -/
structure IsNormal (t : List Char) : Prop where
  unpadded : Unpadded t
  single : ∀ b c, isBlank b = true → isBlank c = true → ¬[b, c] <:+: t
  closed : ∀ piece ∈ pieces, ∀ b, isBlank b = true → ¬b :: piece <:+: t
  noKeyword : ∀ w ∈ words t, w ≠ "class".toList ∧ w ≠ "valuetype".toList

theorem isNormal_joinWords (h : ∀ w ∈ ws, IsTypeWord w)
    (hapart : ∀ piece ∈ pieces, Apart piece ws) : IsNormal (joinWords ws) := by
  -- Behind a blank stands one of the words that do not come first.
  have hbehind {a b : List Char} {c : Char} (hjoin : joinWords ws = a ++ c :: b)
      (hc : isBlank c = true) : a ≠ [] ∧ ∃ v ∈ ws.tail, IsTypeWord v ∧
        ∃ more, b = v ++ more ∧ ∀ d ∈ more.head?, d = ' ' := by
    obtain ⟨hne, -, v, hv, hmore⟩ := exists_word_of_blank h hjoin hc
    exact ⟨hne, v, hv, h v (List.mem_of_mem_tail hv), hmore⟩
  refine ⟨⟨fun c hc => ?_, fun c hc => ?_⟩, ?_, ?_, ?_⟩
  · obtain ⟨rest, hrest⟩ := List.head?_eq_some_iff.1 hc
    by_contra hblank
    exact (hbehind (a := []) hrest (Bool.of_not_eq_false hblank)).1 rfl
  · obtain ⟨a, ha⟩ := List.getLast?_eq_some_iff.1 hc
    by_contra hblank
    obtain ⟨-, v, -, hv, more, hmore, -⟩ := hbehind ha (Bool.of_not_eq_false hblank)
    exact hv.ne_nil (List.append_eq_nil_iff.1 hmore.symm).1
  · rintro b c hb hc ⟨x, y, hxy⟩
    rw [List.append_assoc] at hxy
    obtain ⟨-, v, -, hv, more, hmore, -⟩ := hbehind hxy.symm hb
    obtain ⟨d, word, rfl⟩ := List.exists_cons_of_ne_nil hv.ne_nil
    obtain ⟨rfl, -⟩ := List.cons.inj hmore
    exact Bool.false_ne_true ((hv.unbroken c (by simp)).symm.trans hc)
  · rintro piece hpiece b hb ⟨x, y, hxy⟩
    rw [List.append_assoc] at hxy
    obtain ⟨-, v, hv, -, more, hmore, hspace⟩ := hbehind hxy.symm hb
    obtain ⟨-, -, -, -, -, -, hout⟩ := exists_of_mem_pieces hpiece
    have hbegins : piece <+: v ++ more := ⟨y, hmore⟩
    obtain ⟨c, rest, rfl, hc⟩ := exists_of_prefix_append hbegins (hapart piece hpiece v hv)
    exact hout (by simp [hspace c hc])
  · intro w hw
    rw [words_joinWords h] at hw
    have hkeyword := (h w hw).notKeyword
    rwa [isTypeKeyword, Bool.or_eq_false_iff, beq_eq_false_iff_ne, beq_eq_false_iff_ne] at hkeyword

theorem closeUp_eq_self (h : ¬(' ' :: piece <:+: s)) : closeUp piece s = s := by
  induction s with
  | nil => rfl
  | cons c s ih =>
    rw [List.infix_cons_iff, not_or, List.cons_prefix_cons] at h
    rw [closeUp, if_neg, ih h.2]
    rw [List.isPrefixOf_iff_prefix]
    exact fun hspace => h.1 ⟨hspace.1.symm, hspace.2⟩

theorem isNormal_normalize (s : List Char) : IsNormal (normalize s) := by
  obtain ⟨ws, hws, hwords, hapart⟩ := exists_normalize_eq s
  rw [hws]
  exact isNormal_joinWords hwords hapart

theorem normalize_normalize (s : List Char) : normalize (normalize s) = normalize s := by
  obtain ⟨ws, hws, hwords, hapart⟩ := exists_normalize_eq s
  have hnormal := isNormal_joinWords hwords hapart
  have hclosed {piece : List Char} (hpiece : piece ∈ pieces) :
      closeUp piece (joinWords ws) = joinWords ws :=
    closeUp_eq_self (hnormal.closed piece hpiece ' ' isBlank_space)
  have hkept : ws.filter (!isTypeKeyword ·) = ws :=
    List.filter_eq_self.2 fun w hw => by simp [(hwords w hw).notKeyword]
  rw [normalize, dropScopes_normalize, hws, words_joinWords hwords, hkept, hclosed (by decide),
    hclosed (by decide), hclosed (by decide)]

/-! ### Additions -/

/-- Every bracket that has been opened in the text is closed in it. -/
def OutsideBrackets (front : List Char) : Prop := ∀ a b, front = a ++ '[' :: b → ']' ∈ b

/-- What names an assembly: it has no brackets and is not made of array bounds only. -/
def IsScopeName (name : List Char) : Prop :=
  ('[' ∉ name ∧ ']' ∉ name) ∧ ∃ c ∈ name, c.isDigit = false ∧ c ∉ ['.', ',', ' ']

/-- A word can begin behind the text: the text is empty, or it ends with a blank, with scopes behind
them or not. -/
inductive WordBegins : List Char → Prop
  | start : WordBegins []
  | blank {front : List Char} {b : Char} (hfront : OutsideBrackets front) (hb : isBlank b = true) :
    WordBegins (front ++ [b])
  | scope {front name : List Char} (hfront : WordBegins front) (hname : IsScopeName name) :
    WordBegins (front ++ '[' :: (name ++ [']']))

/-- What can be put behind a text, before its next word, and says nothing about the type. -/
inductive Addition (front : List Char) : List Char → Prop
  | scope {name : List Char} (hfront : OutsideBrackets front) (hname : IsScopeName name) :
    Addition front ('[' :: (name ++ [']']))
  | keyword {keyword blanks : List Char} (hfront : WordBegins front)
    (hkeyword : keyword = "class".toList ∨ keyword = "valuetype".toList) (hne : blanks ≠ [])
    (hblanks : ∀ c ∈ blanks, isBlank c = true) : Addition front (keyword ++ blanks)
  | blanks {blanks : List Char} (hfront : WordBegins front)
    (hblanks : ∀ c ∈ blanks, isBlank c = true) : Addition front blanks

/-- Scopes are dropped on either side of a place outside of brackets by themselves. -/
theorem dropScopesFrom_append {inside : Option (List Char)} (hfront : OutsideBrackets front)
    (hinside : inside.isSome = true → ']' ∈ front) (t : List Char) :
    dropScopesFrom inside (front ++ t) = dropScopesFrom inside front ++ dropScopes t := by
  induction front generalizing inside with
  | nil =>
    cases inside with
    | none => rfl
    | some inner => simp at hinside
  | cons c front ih =>
    have hrest : OutsideBrackets front := fun a b h => hfront (c :: a) b (by rw [h]; rfl)
    cases inside with
    | none =>
      rw [List.cons_append, dropScopesFrom, dropScopesFrom]
      split
      · next hc => exact ih hrest fun _ => hfront [] front (by rw [hc]; rfl)
      · rw [ih hrest (by simp)]
        rfl
    | some inner =>
      rw [List.cons_append, dropScopesFrom, dropScopesFrom]
      split
      · rw [ih hrest (by simp), List.append_assoc]
      · next hc => exact ih hrest fun h => by simpa [Ne.symm hc] using hinside h

theorem isArrayBounds_of_isScopeName {name : List Char} (h : IsScopeName name) :
    isArrayBounds name = false := by
  obtain ⟨-, c, hc, hdigit, hmark⟩ := h
  rw [isArrayBounds, List.all_eq_false]
  simp only [List.mem_cons, List.not_mem_nil, or_false, not_or] at hmark
  exact ⟨c, hc, by simp [hdigit, hmark]⟩

theorem outsideBrackets_of_notMem (h : '[' ∉ front) : OutsideBrackets front := by
  rintro a b rfl
  simp at h

theorem outsideBrackets_concat (s : List Char) : OutsideBrackets (s ++ [']']) := by
  intro a b h
  rcases List.eq_nil_or_concat b with rfl | ⟨b, c, rfl⟩
  · simpa using (List.append_inj' h rfl).2
  · rw [List.concat_eq_append, ← List.cons_append, ← List.append_assoc] at h
    obtain ⟨-, hc⟩ := List.append_inj' h rfl
    simp [← List.singleton_inj.1 hc]

theorem OutsideBrackets.concat {c : Char} (h : OutsideBrackets front) (hc : c ≠ '[') :
    OutsideBrackets (front ++ [c]) := by
  intro a b hsplit
  rcases List.eq_nil_or_concat b with rfl | ⟨b, d, rfl⟩
  · exact absurd (List.singleton_inj.1 (List.append_inj' hsplit rfl).2) hc
  · rw [List.concat_eq_append, ← List.cons_append, ← List.append_assoc] at hsplit
    have hmem := h a b (List.append_inj' hsplit rfl).1
    simp [hmem]

theorem WordBegins.outsideBrackets (h : WordBegins front) : OutsideBrackets front := by
  cases h with
  | start => simp [OutsideBrackets]
  | blank hfront hb => exact hfront.concat (blank_ne_bracket hb).1
  | @scope front name =>
    have hscope := outsideBrackets_concat (front ++ '[' :: name)
    rwa [List.append_assoc, List.cons_append] at hscope

theorem WordBegins.words_append (h : WordBegins front) (t : List Char) :
    words (dropScopes front ++ t) = words (dropScopes front) ++ words t := by
  induction h with
  | start => rfl
  | @blank front b hfront hb =>
    have hdrop : dropScopes (front ++ [b]) = dropScopes front ++ [b] := by
      have hb' : dropScopes [b] = [b] := by
        rw [dropScopes, dropScopesFrom, if_neg (blank_ne_bracket hb).1]
        rfl
      rw [dropScopes, dropScopesFrom_append hfront (by simp), hb', dropScopes]
    rw [hdrop, List.append_assoc, List.singleton_append, words_append_blank hb,
      words_append_blank hb]
    simp [words]
  | @scope front name hfront hname ih =>
    have hdrop : dropScopes (front ++ '[' :: (name ++ [']'])) = dropScopes front := by
      rw [dropScopes, dropScopesFrom_append hfront.outsideBrackets (by simp),
        dropScopes_scope hname.1.2 (isArrayBounds_of_isScopeName hname)]
      exact List.append_nil _
    rw [hdrop]
    exact ih

theorem dropScopes_blanks {blanks : List Char} (hblanks : ∀ c ∈ blanks, isBlank c = true)
    (t : List Char) : dropScopes (blanks ++ t) = blanks ++ dropScopes t :=
  dropScopes_append (fun hmem => (blank_ne_bracket (hblanks _ hmem)).1 rfl) t

/-- What says nothing about a type makes no difference to its one form. -/
theorem normalize_addition {added : List Char} (h : Addition front added) (rest : List Char) :
    normalize (front ++ (added ++ rest)) = normalize (front ++ rest) := by
  have hsplit (hfront : OutsideBrackets front) (t : List Char) :
      dropScopes (front ++ t) = dropScopes front ++ dropScopes t :=
    dropScopesFrom_append hfront (by simp) t
  cases h with
  | @scope name hfront hname =>
    have hscope := dropScopes_scope hname.1.2 (isArrayBounds_of_isScopeName hname) rest
    rw [normalize, normalize, hsplit hfront, hsplit hfront, List.cons_append, List.append_assoc,
      List.singleton_append, hscope]
  | @keyword keyword blanks hfront hkeyword hne hblanks =>
    have hplain : keyword ≠ [] ∧ '[' ∉ keyword ∧ (∀ c ∈ keyword, isBlank c = false) ∧
        isTypeKeyword keyword = true := by
      rcases hkeyword with rfl | rfl <;> decide +kernel
    have hhead : ∀ c ∈ (blanks ++ dropScopes rest).head?, isBlank c = true := by
      obtain ⟨b, blanks, rfl⟩ := List.exists_cons_of_ne_nil hne
      rintro c ⟨⟩
      exact hblanks b List.mem_cons_self
    have hdrop : dropScopes (keyword ++ blanks ++ rest) =
        keyword ++ (blanks ++ dropScopes rest) := by
      rw [List.append_assoc, dropScopes_append hplain.2.1, dropScopes_blanks hblanks]
    -- A blank follows the keyword, so that it is a word of its own, and such words are left out.
    rw [normalize, normalize, hsplit hfront.outsideBrackets, hsplit hfront.outsideBrackets, hdrop,
      hfront.words_append, hfront.words_append, words_append hplain.1 hplain.2.2.1 hhead,
      words_blanks hblanks, List.filter_append, List.filter_append,
      List.filter_cons_of_neg (by simp [hplain.2.2.2])]
  | blanks hfront hblanks =>
    rw [normalize, normalize, hsplit hfront.outsideBrackets, hsplit hfront.outsideBrackets,
      hfront.words_append, hfront.words_append, dropScopes_blanks hblanks, words_blanks hblanks]

/-- The one form of a type is a normal form. It has no needless blanks, no keywords and no blanks
before what belongs to a type, it is its own one form, and what is put before a word and says
nothing about the type leads to the same one. -/
theorem normalize_normalForm :
    (∀ s, normalize (normalize s) = normalize s ∧ IsNormal (normalize s)) ∧
      ∀ {front added : List Char}, Addition front added → ∀ rest,
        normalize (front ++ (added ++ rest)) = normalize (front ++ rest) :=
  ⟨fun s => ⟨normalize_normalize s, isNormal_normalize s⟩, normalize_addition⟩

theorem normalize_normalForm_sample :
    WordBegins "native [Sdk]".toList ∧ Addition "native [Sdk]".toList "class \t".toList ∧
      Addition "native [Sdk]".toList "[System.Runtime, Version=1.0]".toList ∧
      normalize "native [Sdk]class \tFind [] &".toList = normalize "native [Sdk]Find [] &".toList ∧
      normalize "native [Sdk][System.Runtime, Version=1.0]Find [] &".toList =
        normalize "native [Sdk]Find [] &".toList ∧
      normalize "native [Sdk]Find [] &".toList = "native Find[]&".toList := by
  have hplain : OutsideBrackets "native".toList := outsideBrackets_of_notMem (by decide)
  have hname : IsScopeName "Sdk".toList := ⟨by decide, 'S', by decide⟩
  have hname' : IsScopeName "System.Runtime, Version=1.0".toList := ⟨by decide, 'S', by decide⟩
  have hbegins : WordBegins "native [Sdk]".toList := .scope (.blank hplain isBlank_space) hname
  have hkeyword : Addition "native [Sdk]".toList ("class".toList ++ " \t".toList) :=
    .keyword hbegins (.inl rfl) (by decide) (by decide +kernel)
  have hscope : Addition "native [Sdk]".toList "[System.Runtime, Version=1.0]".toList :=
    .scope hbegins.outsideBrackets hname'
  obtain ⟨-, hadded⟩ := normalize_normalForm
  exact ⟨hbegins, hkeyword, hscope, hadded hkeyword "Find [] &".toList,
    hadded hscope "Find [] &".toList, by decide +kernel⟩

end PluginBuild.Metadata
