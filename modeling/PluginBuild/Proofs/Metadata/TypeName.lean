import PluginBuild.Metadata.Attribute
import PluginBuild.Proofs.Listing.Item
import PluginBuild.Proofs.Text.Blank
/-!
# Names of types that a listing refers to

A reference is a name, plain or in quotes, behind an assembly scope and before generic arguments
(`RefersTo`). It is read as the name alone (`RefersTo.typeRefName_eq`), and it stands as one word
and one item wherever references are listed.
-/

namespace PluginBuild.Metadata

open Listing Text

variable {s t scope word name : List Char}

/-! ### Scopes -/

theorem dropScopes_append (h : '[' ∉ s) (t : List Char) :
    dropScopes (s ++ t) = s ++ dropScopes t := by
  induction s with
  | nil => rfl
  | cons c s ih =>
    rw [List.mem_cons, not_or] at h
    rw [List.cons_append, dropScopes, dropScopesFrom, if_neg (Ne.symm h.1)]
    exact congrArg (c :: ·) (ih h.2)

theorem dropScopesFrom_closed (hclosed : ']' ∉ scope) (inner t : List Char) :
    dropScopesFrom (some inner) (scope ++ ']' :: t) =
      dropScopesFrom (some (scope.reverse ++ inner)) (']' :: t) := by
  induction scope generalizing inner with
  | nil => rfl
  | cons c scope ih =>
    rw [List.mem_cons, not_or] at hclosed
    rw [List.cons_append, dropScopesFrom, if_neg (Ne.symm hclosed.1), ih hclosed.2]
    simp

/-- A scope that is no array suffix is dropped. -/
theorem dropScopes_scope (hclosed : ']' ∉ scope) (hscope : isArrayBounds scope = false)
    (t : List Char) : dropScopes ('[' :: (scope ++ ']' :: t)) = dropScopes t := by
  have hbounds : isArrayBounds scope.reverse = false := by
    rw [← hscope, isArrayBounds, isArrayBounds, List.all_reverse]
  rw [dropScopes, dropScopesFrom, if_pos rfl, dropScopesFrom_closed hclosed, List.append_nil,
    dropScopesFrom, if_pos rfl, hbounds]
  rfl

/-! ### One form -/

theorem joinWords_cons (w : List Char) {more : List (List Char)} (h : more ≠ []) :
    joinWords (w :: more) = w ++ ' ' :: joinWords more := by
  cases more with
  | nil => exact absurd rfl h
  | cons next more => rfl

theorem exists_joinWords_cons (more : List (List Char)) :
    ∃ t, (∀ w, joinWords (w :: more) = w ++ t) ∧ (more = [] → t = []) := by
  cases more with
  | nil => exact ⟨[], fun w => (List.append_nil w).symm, fun _ => rfl⟩
  | cons next more => exact ⟨_, fun _ => rfl, nofun⟩

theorem closeUp_append (h : ' ' ∉ s) (piece t : List Char) :
    closeUp piece (s ++ t) = s ++ closeUp piece t := by
  induction s with
  | nil => rfl
  | cons c s ih =>
    rw [List.mem_cons, not_or] at h
    rw [List.cons_append, closeUp, if_neg (fun hspace => h.1 hspace.1.symm), ih h.2,
      List.cons_append]

/-- What has neither blanks nor scopes in it begins the one form of a type as well, unless it makes
a keyword. -/
theorem exists_normalize_append (hne : s ≠ []) (hs : ∀ c ∈ s, isBlank c = false ∧ c ≠ '[')
    (hkeyword : ∀ w, w <+: dropScopes t → isTypeKeyword (s ++ w) = false) :
    ∃ t', normalize (s ++ t) = s ++ t' ∧ (t = [] → t' = []) := by
  have hscope : '[' ∉ s := fun hmem => (hs _ hmem).2 rfl
  have hspace : ' ' ∉ s := fun hmem => Bool.false_ne_true ((hs _ hmem).1.symm.trans isBlank_space)
  obtain ⟨w, more, hwords, hw, hmore⟩ :=
    exists_words_append hne (fun c hc => (hs c hc).1) (dropScopes t)
  obtain ⟨t', hjoin, ht'⟩ := exists_joinWords_cons (more.filter (!isTypeKeyword ·))
  -- Closing up takes away only blanks, and there are none in `s`.
  refine ⟨closeUp "[]".toList (closeUp ['*'] (closeUp ['&'] (w ++ t'))), ?_, ?_⟩
  · rw [normalize, dropScopes_append hscope, hwords,
      List.filter_cons_of_pos (by simp [hkeyword w hw]), hjoin, List.append_assoc,
      closeUp_append hspace, closeUp_append hspace, closeUp_append hspace]
  · rintro rfl
    rw [List.prefix_nil.1 hw, ht' (by rw [hmore rfl]; rfl)]
    rfl

theorem normalize_eq_self (hne : s ≠ []) (hs : ∀ c ∈ s, isBlank c = false ∧ c ≠ '[')
    (hkeyword : isTypeKeyword s = false) : normalize s = s := by
  have hnone : ∀ w, w <+: dropScopes [] → isTypeKeyword (s ++ w) = false := by
    intro w hw
    rw [List.prefix_nil.1 hw, List.append_nil]
    exact hkeyword
  obtain ⟨t', hnormalize, ht'⟩ := exists_normalize_append hne hs hnone
  rwa [ht' rfl, List.append_nil] at hnormalize

/-! ### References -/

/-- A name without quotes: no blank, quote, bracket or comma is in it. -/
def IsPlainName (name : List Char) : Prop :=
  ∀ c ∈ name, isBlank c = false ∧ Unmarked c ∧ c ≠ ','

instance (name : List Char) : Decidable (IsPlainName name) :=
  inferInstanceAs (Decidable (∀ c ∈ name, _))

/-- The words that are no names in the clauses of a type, unless they are quoted. -/
def clauseWords : List String := ["extends", "implements", "class", "valuetype", ",", "\x7b"]

/-- How a type is referred to: the word for it, and its name. -/
inductive RefersTo : List Char → List Char → Prop
  | plain {name : List Char} (hne : name ≠ []) (hname : IsPlainName name)
    (hkeyword : String.ofList name ∉ clauseWords) : RefersTo name name
  | generic {name args : List Char} (hne : name ≠ []) (hname : IsPlainName name)
    (hargs : Enclosed args) : RefersTo (name ++ '<' :: (args ++ ['>'])) name
  | quoted {name : List Char} (hname : ∀ c ∈ name, isBlank c = false ∧ c ∉ ['\'', '[', '<']) :
    RefersTo ('\'' :: (name ++ ['\''])) name
  | inScope {scope word name : List Char} (hscope : Enclosed scope) (hclosed : ']' ∉ scope)
    (hbounds : isArrayBounds scope = false) (hword : RefersTo word name) :
    RefersTo ('[' :: (scope ++ ']' :: word)) name

theorem IsPlainName.isPlainWord (h : IsPlainName s) : IsPlainWord s := by
  intro c hc
  obtain ⟨hblank, hmark, -⟩ := h c hc
  have hmarks := unmarked_iff.1 hmark
  simp only [List.mem_cons, not_or] at hmarks
  exact ⟨hblank, by simp [hmarks]⟩

/-- A plain name has neither blanks nor scopes in it. -/
theorem IsPlainName.unscoped (h : IsPlainName s) : ∀ c ∈ s, isBlank c = false ∧ c ≠ '[' := by
  intro c hc
  have hmarks := (h.isPlainWord c hc).2
  simp only [List.mem_cons, not_or] at hmarks
  exact ⟨(h c hc).1, hmarks.2.1⟩

theorem isTypeKeyword_of_mem {c : Char} (hc : c ∈ word) (h : c = '<' ∨ c = '\'') :
    isTypeKeyword word = false := by
  rw [isTypeKeyword, Bool.or_eq_false_iff, beq_eq_false_iff_ne, beq_eq_false_iff_ne]
  constructor
  all_goals
    rintro rfl
    revert hc
    rcases h with rfl | rfl <;> decide

/-! ### What is read of references -/

theorem typeRefName_plain (hne : name ≠ []) (hname : IsPlainName name)
    (hkeyword : isTypeKeyword name = false) : typeRefName name = String.ofList name := by
  rw [typeRefName, normalize_eq_self hne hname.unscoped hkeyword,
    unquote_of_head?_ne (head?_of_isPlainWord hne hname.isPlainWord), withoutGenerics,
    takeWhile_plain hname.isPlainWord.not_mem]

/-- A name in quotes that its one form leaves as it is. -/
theorem typeRefName_quoted (hgeneric : '<' ∉ name)
    (hnormal : normalize ('\'' :: (name ++ ['\''])) = '\'' :: (name ++ ['\''])) :
    typeRefName ('\'' :: (name ++ ['\''])) = String.ofList name := by
  rw [typeRefName, hnormal, unquote_quoted, withoutGenerics, takeWhile_plain hgeneric]

theorem typeRefName_scope (hclosed : ']' ∉ scope) (hscope : isArrayBounds scope = false)
    (word : List Char) : typeRefName ('[' :: (scope ++ ']' :: word)) = typeRefName word := by
  rw [typeRefName, typeRefName, normalize, normalize, dropScopes_scope hclosed hscope]

namespace RefersTo

/-- A reference is read as the name of the type. -/
theorem typeRefName_eq (h : RefersTo word name) : typeRefName word = String.ofList name := by
  induction h with
  | @plain name hne hname hkeyword =>
    have hnotKeyword : isTypeKeyword name = false := by
      rw [isTypeKeyword, Bool.or_eq_false_iff, beq_eq_false_iff_ne, beq_eq_false_iff_ne]
      constructor
      all_goals
        rintro rfl
        exact hkeyword (by decide)
    exact typeRefName_plain hne hname hnotKeyword
  | @generic name args hne hname hargs =>
    have hchars : ∀ c ∈ name ++ ['<'], isBlank c = false ∧ c ≠ '[' := by
      rw [List.forall_mem_append, List.forall_mem_singleton]
      exact ⟨hname.unscoped, by decide +kernel⟩
    have hkeyword (w : List Char) : isTypeKeyword (name ++ ['<'] ++ w) = false :=
      isTypeKeyword_of_mem (c := '<') (by simp) (.inl rfl)
    obtain ⟨t', hnormalize, -⟩ :=
      @exists_normalize_append (name ++ ['<']) (args ++ ['>']) (by simp) hchars
        fun w _ => hkeyword w
    rw [List.append_assoc, List.append_assoc] at hnormalize
    rw [typeRefName, ← List.singleton_append, hnormalize,
      unquote_of_head?_ne (head?_append_of_isPlainWord hne hname.isPlainWord _), withoutGenerics,
      takeWhile_generic hname.isPlainWord.not_mem (by simp)]
  | @quoted name hname =>
    have hchars : ∀ c ∈ '\'' :: (name ++ ['\'']), isBlank c = false ∧ c ≠ '[' := by
      rw [List.forall_mem_cons, List.forall_mem_append, List.forall_mem_singleton]
      refine ⟨by decide +kernel, fun c hc => ⟨(hname c hc).1, ?_⟩, by decide +kernel⟩
      rintro rfl
      exact (hname _ hc).2 (by decide)
    have hkeyword : isTypeKeyword ('\'' :: (name ++ ['\''])) = false :=
      isTypeKeyword_of_mem (c := '\'') (by simp) (.inr rfl)
    have hgeneric : '<' ∉ name := fun hmem => (hname _ hmem).2 (by decide)
    exact typeRefName_quoted hgeneric (normalize_eq_self (by simp) hchars hkeyword)
  | inScope _ hclosed hbounds _ ih =>
    rw [typeRefName_scope hclosed hbounds, ih]

/-- A reference has neither blanks nor commas at its ends. -/
theorem ends (h : RefersTo word name) :
    (∀ c ∈ word.head?, isBlank c = false ∧ c ≠ ',') ∧
      ∃ front last, word = front ++ [last] ∧ isBlank last = false ∧ last ≠ ',' := by
  have hfirst {name : List Char} (hne : name ≠ []) (hname : IsPlainName name) (rest : List Char) :
      ∀ c ∈ (name ++ rest).head?, isBlank c = false ∧ c ≠ ',' := by
    obtain ⟨c, more, rfl⟩ := List.exists_cons_of_ne_nil hne
    rintro d ⟨⟩
    exact ⟨(hname c (by simp)).1, (hname c (by simp)).2.2⟩
  induction h with
  | @plain name hne hname =>
    have hlast := hname _ (List.getLast_mem hne)
    refine ⟨?_, name.dropLast, name.getLast hne, (List.dropLast_concat_getLast hne).symm,
      hlast.1, hlast.2.2⟩
    simpa using hfirst hne hname []
  | @generic name args hne hname =>
    exact ⟨hfirst hne hname _, name ++ '<' :: args, '>', by simp, by decide +kernel, by decide⟩
  | @quoted name =>
    refine ⟨?_, '\'' :: name, '\'', by simp, by decide +kernel, by decide⟩
    rintro c ⟨⟩
    decide +kernel
  | @inScope scope word name _ _ _ _ ih =>
    obtain ⟨-, front, last, hword, hlast⟩ := ih
    refine ⟨?_, '[' :: (scope ++ ']' :: front), last, by simp [hword], hlast⟩
    rintro c ⟨⟩
    decide +kernel

theorem unpadded (h : RefersTo word name) : Unpadded word := by
  obtain ⟨hhead, front, last, rfl, hblank, -⟩ := h.ends
  refine ⟨fun c hc => (hhead c hc).1, ?_⟩
  rw [List.getLast?_concat]
  rintro c ⟨⟩
  exact hblank

theorem ne_nil (h : RefersTo word name) : word ≠ [] := by
  obtain ⟨-, front, last, rfl, -⟩ := h.ends
  simp

end RefersTo

end PluginBuild.Metadata
