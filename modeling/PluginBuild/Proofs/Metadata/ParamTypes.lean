import PluginBuild.Proofs.Listing.Item
import PluginBuild.Proofs.Metadata.TypeName
/-!
# Types of parameters

A method declares a parameter by markers, its type, how it is marshaled and its name
(`DeclaresParam`); a reference to the method states the type alone. Both are read as the same type,
in its one form (`paramTypes_written`). A list is cut regardless of escapes, so that an escaped
quote can make one parameter of two (`exists_params_misread`).
-/

namespace PluginBuild.Metadata

open Listing Text

/-! ### Parameters as they are written -/

/-- The words of a type: beginnings, the word they lead to, and suffixes that stand apart. -/
inductive SpellsType : List String → Prop
  | mk {beginnings suffixes : List String} {name : String}
    (hbeginnings : ∀ word ∈ beginnings, word ∈ typeBeginnings) (hname : name ∉ typeBeginnings)
    (hmarker : name ∉ "" :: parameterMarkers)
    (hsuffixes : ∀ word ∈ suffixes, word.toList.any isTypeMark ∧ word ∉ parameterMarkers) :
    SpellsType (beginnings ++ name :: suffixes)

/-- The markers that tell the direction of a parameter. -/
def directions : List String := ["[in]", "[out]", "[opt]"]

/-- A word with markers directly before it. -/
def marked : List String → String → String
  | [], word => word
  | marker :: markers, word => marker ++ marked markers word

/-- The tokens of a parameter in the declaration of a method: markers, the words of its type, the
first of which may have markers before it as well, how it is marshaled, and its name. -/
inductive DeclaresParam : List String → List Token → Prop
  | mk {leading : List (List String × String)} {markers more : List String} {first name : String}
    {marshaling : Option String}
    (hleading : ∀ word ∈ leading, (∀ marker ∈ word.1, marker ∈ directions) ∧ word.2 ∈ directions)
    (hmarkers : ∀ marker ∈ markers, marker ∈ directions) (hmarker : name ∉ parameterMarkers)
    (hname : name.toList.any isTypeMark = false) :
    DeclaresParam (first :: more)
      (leading.map (fun word => ⟨marked word.1 word.2, none⟩) ++
        ⟨marked markers first, none⟩ :: (more.map (⟨·, none⟩) ++
          (marshaling.map fun contents => ⟨"marshal", some contents⟩).toList ++ [⟨name, none⟩]))

/-- A text that spells the tokens and is one item of a list, with or without blanks around it. -/
def Writes (tokens : List Token) (text : List Char) : Prop :=
  ∃ before core after, text = before ++ (core ++ after) ∧ (∀ c ∈ before, isBlank c = true) ∧
    (∀ c ∈ after, isBlank c = true) ∧ Unpadded core ∧ IsItem core ∧ Spells [] tokens core

/-- A parameter, as a method declares it and as a reference to the method states its type. -/
structure WrittenParam where
  /-- The words of the type. -/
  words : List String
  isType : SpellsType words
  declared : List Char
  declares : ∃ tokens, DeclaresParam words tokens ∧ Writes tokens declared
  referred : List Char
  refers : Writes (words.map (⟨·, none⟩)) referred

/-- The type of a parameter in its one form. -/
def WrittenParam.type (param : WrittenParam) : String :=
  String.ofList (normalize (joinWords (param.words.map String.toList)))

theorem SpellsType.ne_nil {words : List String} (h : SpellsType words) : words ≠ [] := by
  cases h
  simp

theorem DeclaresParam.ne_nil {words : List String} {tokens : List Token}
    (h : DeclaresParam words tokens) : tokens ≠ [] := by
  cases h
  simp

/-! ### Words that count -/

theorem SpellsType.not_marker {words : List String} (h : SpellsType words) :
    ∀ word ∈ words, word ∉ "" :: parameterMarkers := by
  have hbeginning : ∀ word ∈ typeBeginnings, word ∉ "" :: parameterMarkers := by decide
  cases h with
  | mk hbeginnings _ hmarker hsuffixes =>
    rw [List.forall_mem_append, List.forall_mem_cons]
    refine ⟨fun word hmem => hbeginning word (hbeginnings word hmem), hmarker, fun word hmem => ?_⟩
    obtain ⟨hmark, hmarker⟩ := hsuffixes word hmem
    rintro (_ | ⟨_, hmem⟩)
    · simp at hmark
    · exact hmarker hmem

/-- Markers directly before a word do not make it one of the words that do not count. -/
theorem marked_not_marker {markers : List String}
    (hmarkers : ∀ marker ∈ markers, marker ∈ directions) {word : String} (hword : word ∉ "" :: parameterMarkers) :
    marked markers word ∉ "" :: parameterMarkers := by
  have hprefix : ∀ marker ∈ directions, ∀ other ∈ "" :: parameterMarkers,
      marker.toList <+: other.toList → marker = other := by
    decide
  -- No marker is the beginning of another one.
  induction markers with
  | nil => exact hword
  | cons marker markers ih =>
    obtain ⟨hmarker, hmarkers⟩ := List.forall_mem_cons.1 hmarkers
    have hne : marked markers word ≠ "" := fun heq => ih hmarkers (heq ▸ List.mem_cons_self)
    intro hmem
    have hsame := hprefix marker hmarker _ hmem ⟨(marked markers word).toList, by simp [marked]⟩
    refine hne (String.toList_inj.1 ?_)
    have hlists := congrArg String.toList hsame
    simpa [marked] using hlists

/-! ### The name -/

theorem endsInName_concat (words : List String) (last : String) :
    endsInName (words ++ [last]) =
      (words.getLast?.any (· ∉ typeBeginnings) && !last.toList.any isTypeMark) := by
  rcases List.eq_nil_or_concat words with rfl | ⟨words, previous, rfl⟩
  · rfl
  · simp [endsInName]

theorem SpellsType.endsInName_eq {words : List String} (h : SpellsType words) :
    endsInName words = false := by
  cases h with
  | @mk beginnings suffixes name hbeginnings _ _ hsuffixes =>
    rcases List.eq_nil_or_concat suffixes with rfl | ⟨suffixes, last, rfl⟩
    · rw [endsInName_concat]
      rcases List.eq_nil_or_concat beginnings with rfl | ⟨beginnings, previous, rfl⟩
      · rfl
      · have hprevious := hbeginnings previous (by simp)
        simp [hprevious]
    · have hlast := (hsuffixes last (by simp)).1
      rw [List.concat_eq_append, ← List.cons_append, ← List.append_assoc, endsInName_concat, hlast]
      simp

/-- A type does not end with a word that another has to follow. -/
theorem SpellsType.getLast?_not_beginning {words : List String} (h : SpellsType words) :
    ∀ word ∈ words.getLast?, word ∉ typeBeginnings := by
  have hbeginning : ∀ word ∈ typeBeginnings, word.toList.any isTypeMark = false := by decide
  cases h with
  | @mk beginnings suffixes name _ hname _ hsuffixes =>
    rcases List.eq_nil_or_concat suffixes with rfl | ⟨suffixes, last, rfl⟩
    · rw [List.getLast?_concat]
      rintro word ⟨⟩
      exact hname
    · rw [List.concat_eq_append, ← List.cons_append, ← List.append_assoc, List.getLast?_concat]
      rintro word ⟨⟩ hmem
      have hlast := (hsuffixes last (by simp)).1
      rw [hbeginning last hmem] at hlast
      cases hlast

theorem SpellsType.any_getLast? {markers more : List String} {first : String}
    (h : SpellsType (first :: more)) (hmarkers : ∀ marker ∈ markers, marker ∈ directions)
    (leading : List String) :
    (leading ++ marked markers first :: more).getLast?.any (· ∉ typeBeginnings) = true := by
  have hprefix : ∀ marker ∈ directions, ∀ word ∈ typeBeginnings,
      ¬marker.toList <+: word.toList := by
    decide
  have hlast := h.getLast?_not_beginning
  have hword : ∀ word ∈ (marked markers first :: more).getLast?, word ∉ typeBeginnings := by
    cases more with
    | cons next more => simpa only [List.getLast?_cons_cons] using hlast
    | nil =>
      cases markers with
      | nil => exact hlast
      | cons marker markers =>
        rintro word ⟨⟩ hmem
        exact hprefix marker (hmarkers marker (.head _)) _ hmem
          ⟨(marked markers first).toList, by simp [marked]⟩
  cases hsome : (marked markers first :: more).getLast? with
  | none => simp at hsome
  | some word => simpa [List.getLast?_append, hsome] using hword word hsome

/-! ### The type -/

theorem dropScopes_direction {marker : String} (h : marker ∈ directions) (t : List Char) :
    dropScopes (marker.toList ++ t) = dropScopes t := by
  simp only [directions, List.mem_cons, List.not_mem_nil, or_false] at h
  rcases h with rfl | rfl | rfl
  · exact @dropScopes_scope "in".toList (by decide) (by decide) t
  · exact @dropScopes_scope "out".toList (by decide) (by decide) t
  · exact @dropScopes_scope "opt".toList (by decide) (by decide) t

theorem dropScopes_marked {markers : List String} (h : ∀ marker ∈ markers, marker ∈ directions)
    (word : String) (t : List Char) :
    dropScopes ((marked markers word).toList ++ t) = dropScopes (word.toList ++ t) := by
  induction markers with
  | nil => rfl
  | cons marker markers ih =>
    obtain ⟨hmarker, hmarkers⟩ := List.forall_mem_cons.1 h
    rw [marked, String.toList_append, List.append_assoc, dropScopes_direction hmarker, ih hmarkers]

/-- Words that are markers alone leave a type as it is. -/
theorem normalize_leading {leading : List String} {rest : List (List Char)} (hne : rest ≠ [])
    (h : ∀ word ∈ leading, ∀ t, dropScopes (word.toList ++ t) = dropScopes t) :
    normalize (joinWords (leading.map String.toList ++ rest)) = normalize (joinWords rest) := by
  have hspace (t : List Char) : dropScopes (' ' :: t) = ' ' :: dropScopes t :=
    @dropScopes_append [' '] (by decide) t
  induction leading with
  | nil => rfl
  | cons word leading ih =>
    obtain ⟨hword, hleading⟩ := List.forall_mem_cons.1 h
    rw [← ih hleading, List.map_cons, List.cons_append, joinWords_cons _ (by simp [hne]), normalize,
      hword, hspace, words_blank isBlank_space, normalize]

/-- The words of a declared parameter that count, but for its name, make the type it has. -/
theorem normalize_declared {leading markers more : List String} {first : String}
    (hleading : ∀ word ∈ leading, ∀ t, dropScopes (word.toList ++ t) = dropScopes t)
    (hmarkers : ∀ marker ∈ markers, marker ∈ directions) :
    normalize (joinWords ((leading ++ marked markers first :: more).map String.toList)) =
      normalize (joinWords ((first :: more).map String.toList)) := by
  obtain ⟨t, hjoin, -⟩ := exists_joinWords_cons (more.map String.toList)
  rw [List.map_append, normalize_leading (by simp) hleading, List.map_cons, List.map_cons, hjoin,
    hjoin, normalize, dropScopes_marked hmarkers, normalize]

/-! ### Parameters -/

variable {core : List Char}

theorem paramType_referred {words : List String} (h : SpellsType words)
    (hcore : Spells [] (words.map (⟨·, none⟩)) core) :
    paramType core = String.ofList (normalize (joinWords (words.map String.toList))) := by
  have hcount : words.filter (· ∉ parameterMarkers) = words := by
    refine List.filter_eq_self.2 fun word hmem => decide_eq_true fun hmarker => ?_
    exact h.not_marker word hmem (.tail _ hmarker)
  rw [paramType, map_word_tokenize hcore, hcount, h.endsInName_eq, if_neg Bool.false_ne_true]

/-- The words of a declared parameter that count: markers, those of its type, and its name. -/
theorem DeclaresParam.exists_counted {words : List String} {tokens : List Token}
    (h : SpellsType words) (htokens : DeclaresParam words tokens) :
    ∃ leading markers more : List String, ∃ first name : String, words = first :: more ∧
      (tokens.map (·.word)).filter (· ∉ parameterMarkers) =
        leading ++ marked markers first :: more ++ [name] ∧
      (∀ word ∈ leading, ∀ t, dropScopes (word.toList ++ t) = dropScopes t) ∧
      (∀ marker ∈ markers, marker ∈ directions) ∧ name.toList.any isTypeMark = false := by
  cases htokens with
  | @mk leading markers more first name marshaling hleading hmarkers hmarker hname =>
    -- Several markers in one word count as a word, which is dropped with the scopes.
    refine ⟨(leading.map fun word => marked word.1 word.2).filter (· ∉ parameterMarkers), markers,
      more, first, name, rfl, ?_, fun word hmem t => ?_, hmarkers, hname⟩
    · have htype : (marked markers first :: more).filter (· ∉ parameterMarkers) =
          marked markers first :: more := by
        obtain ⟨hfirst, hmore⟩ := List.forall_mem_cons.1 h.not_marker
        rw [List.filter_eq_self, List.forall_mem_cons]
        refine ⟨decide_eq_true fun hmem => ?_, fun word hmem => decide_eq_true fun hmarker => ?_⟩
        · exact marked_not_marker hmarkers hfirst (.tail _ hmem)
        · exact hmore word hmem (.tail _ hmarker)
      have hmarshal : "marshal" ∈ parameterMarkers := by decide
      have hend : ((marshaling.map fun contents => (⟨"marshal", some contents⟩ : Token)).toList.map
          (·.word) ++ [name]).filter (· ∉ parameterMarkers) = [name] := by
        cases marshaling <;> simp [hmarker, hmarshal]
      rw [← htype, List.append_assoc, ← hend, ← List.filter_append, ← List.filter_append]
      simp [Function.comp_def]
    · obtain ⟨run, hrun, rfl⟩ := List.mem_map.1 (List.mem_filter.1 hmem).1
      rw [dropScopes_marked (hleading run hrun).1, dropScopes_direction (hleading run hrun).2]

theorem paramType_declared {words : List String} {tokens : List Token} (h : SpellsType words)
    (htokens : DeclaresParam words tokens) (hcore : Spells [] tokens core) :
    paramType core = String.ofList (normalize (joinWords (words.map String.toList))) := by
  obtain ⟨leading, markers, more, first, name, rfl, hcounted, hleading, hmarkers, hname⟩ :=
    htokens.exists_counted h
  rw [paramType, tokenize_spells hcore, tokenize, List.append_nil, hcounted, endsInName_concat,
    h.any_getLast? hmarkers, hname, Bool.not_false, Bool.and_true, if_pos rfl, List.dropLast_concat,
    normalize_declared hleading hmarkers]

/-- What is written is one item, and without the blanks around it the text that spells the
tokens. -/
theorem Writes.item {tokens : List Token} {text : List Char} (h : Writes tokens text)
    (hne : tokens ≠ []) : IsItem text ∧ trim text ≠ [] ∧ Spells [] tokens (trim text) := by
  obtain ⟨before, core, after, rfl, hbefore, hafter, hunpadded, hitem, hspells⟩ := h
  rw [trim_append hbefore hunpadded hafter]
  refine ⟨(isItem_of_isBlank hbefore).append (hitem.append (isItem_of_isBlank hafter)), ?_, hspells⟩
  rintro rfl
  have htokens := tokenize_spells hspells
  rw [tokenize, List.append_nil] at htokens
  exact hne htokens.symm

/-- The types of a parameter list are those of the parameters written in it. -/
theorem paramTypes_joined {α : Type} {params : List α} {text : α → List Char} {type : α → String}
    (h : ∀ param ∈ params, ∃ tokens, tokens ≠ [] ∧ Writes tokens (text param) ∧
      ∀ core, Spells [] tokens core → paramType core = type param) :
    paramTypes (joined (params.map text)) = params.map type := by
  rw [paramTypes, items_joined, List.map_map, List.map_map]
  · refine List.map_congr_left fun param hmem => ?_
    obtain ⟨tokens, hne, hwrites, htype⟩ := h param hmem
    exact htype _ (hwrites.item hne).2.2
  · rw [List.forall_mem_map]
    intro param hmem
    obtain ⟨tokens, hne, hwrites, -⟩ := h param hmem
    exact ⟨(hwrites.item hne).1, (hwrites.item hne).2.1⟩

/-- The parameters that a method declares with markers, marshaling and names have the types that
are stated without them: for each its own, in its one form. -/
theorem paramTypes_written (params : List WrittenParam) :
    paramTypes (joined (params.map (·.declared))) = params.map (·.type) ∧
      paramTypes (joined (params.map (·.referred))) = params.map (·.type) := by
  refine ⟨paramTypes_joined fun param _ => ?_, paramTypes_joined fun param _ => ?_⟩
  · obtain ⟨tokens, htokens, hwrites⟩ := param.declares
    exact ⟨tokens, htokens.ne_nil, hwrites, fun core => paramType_declared param.isType htokens⟩
  · exact ⟨_, by simpa using param.isType.ne_nil, param.refers,
      fun core => paramType_referred param.isType⟩

/-- A string that is handed in and out, as a method declares it and as a reference states it. -/
def sampleString : WrittenParam where
  words := ["string"]
  isType := @SpellsType.mk [] [] "string" (by simp) (by decide) (by decide) (by simp)
  declared := "[in][out] string marshal(lpstr) x".toList
  declares := by
    have hdirections : IsWord ('[' :: ("in".toList ++ ']' :: '[' :: ("out".toList ++ [']']))) :=
      .scope (balanced_of_forall_not_mem (by decide))
        (.scope (balanced_of_forall_not_mem (by decide)) .nil)
    have hproper : Token.IsProper ⟨"[in][out]", none⟩ :=
      ⟨hdirections, by decide, by simp, by simp⟩
    have hname : Token.IsPlain ⟨"x", none⟩ := by decide +kernel
    have hitem : IsItem ('[' :: ("in".toList ++ ']' :: '[' :: ("out".toList ++
        ']' :: (" string marshal".toList ++ '(' :: ("lpstr".toList ++ ')' :: " x".toList))))) :=
      .nested (by decide) (enclosed_of_forall_unmarked (by decide)) (.nested (by decide)
        (enclosed_of_forall_unmarked (by decide)) ((isItem_of_forall_unmarked (by decide)).append
          (.nested (by decide) (enclosed_of_forall_unmarked (by decide))
            (isItem_of_forall_unmarked (by decide)))))
    refine ⟨_, @DeclaresParam.mk [(["[in]"], "[out]")] [] [] "string" "x" (some "lpstr")
      (by decide) (by simp) (by decide) (by decide), [], _, [], (List.append_nil _).symm, by simp,
      by simp, by decide +kernel, hitem, ?_⟩
    exact .token hproper (by decide +kernel) (.blank isBlank_space
      (@spells_plain _ _ [(⟨"string", none⟩, [' ']), (⟨"marshal", some "lpstr"⟩, [' '])]
        (by decide +kernel) _ (.token hname.isProper (by simp) .done)))
  referred := "string".toList
  refers := by
    have hword : Token.IsPlain ⟨"string", none⟩ := by decide +kernel
    exact ⟨[], _, [], (List.append_nil _).symm, by simp, by simp, by decide +kernel,
      isItem_of_forall_unmarked (by decide), .token hword.isProper (by simp) .done⟩

/-- A number whose type is spelled in several words. -/
def sampleNumber : WrittenParam where
  words := ["native", "unsigned", "int"]
  isType := @SpellsType.mk ["native", "unsigned"] [] "int" (by decide) (by decide) (by decide)
    (by simp)
  declared := " native unsigned int\n count".toList
  declares := by
    have hname : Token.IsPlain ⟨"count", none⟩ := by decide +kernel
    refine ⟨_, @DeclaresParam.mk [] [] ["unsigned", "int"] "native" "count" none (by simp)
      (by simp) (by decide) (by decide), [' '], "native unsigned int\n count".toList, [], rfl,
      by decide +kernel, by simp, by decide +kernel, isItem_of_forall_unmarked (by decide), ?_⟩
    exact @spells_plain _ _ [(⟨"native", none⟩, [' ']), (⟨"unsigned", none⟩, [' ']),
      (⟨"int", none⟩, ['\n', ' '])] (by decide +kernel) _ (.token hname.isProper (by simp) .done)
  referred := " native unsigned int".toList
  refers := by
    have hlast : Token.IsPlain ⟨"int", none⟩ := by decide +kernel
    refine ⟨[' '], "native unsigned int".toList, [], rfl, by decide +kernel, by simp,
      by decide +kernel, isItem_of_forall_unmarked (by decide), ?_⟩
    exact @spells_plain _ _ [(⟨"native", none⟩, [' ']), (⟨"unsigned", none⟩, [' '])]
      (by decide +kernel) _ (.token hlast.isProper (by simp) .done)

theorem paramTypes_written_sampleParams :
    paramTypes "[in][out] string marshal(lpstr) x, native unsigned int\n count".toList =
        ["string", "native unsigned int"] ∧
      paramTypes "string, native unsigned int".toList = ["string", "native unsigned int"] := by
  have htypes : [sampleString, sampleNumber].map (·.type) = ["string", "native unsigned int"] := by
    decide +kernel
  obtain ⟨hdeclared, hreferred⟩ := paramTypes_written [sampleString, sampleNumber]
  rw [htypes] at hdeclared hreferred
  exact ⟨hdeclared, hreferred⟩

/-- An escaped quote ends a literal where a list is cut, but not where words are read, so that two
parameters can stay in one piece. -/
theorem exists_params_misread :
    paramTypes "string marshal(custom(\"a\\\"b\", \"c\")) x, int32 y".toList =
        ["string x, int32"] ∧
      paramTypes "string, int32".toList = ["string", "int32"] := by
  decide +kernel

end PluginBuild.Metadata
