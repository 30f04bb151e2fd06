import PluginBuild.Proofs.Metadata.ParamTypes
import PluginBuild.Proofs.Metadata.StatedArg
/-!
# Attributes in their two forms

A listing states the arguments of an attribute by a blob or in braces. Both lines are read as
attributes of the same type, and as the same attribute exactly if no number without a sign needs its
highest bit (`attributeOfLine?_forms`): in braces it is read as it is, in a blob as if it had a sign
(`exists_forms_apart`).
-/

namespace PluginBuild.Metadata

open Listing Text

variable {line : List Char}

/-- The text of a parameter that is of a type. -/
def DeclaresType (declared : List Char) (type : String) : Prop :=
  ∃ words, SpellsType words ∧ Writes (words.map (⟨·, none⟩)) declared ∧
    String.ofList (normalize (joinWords (words.map String.toList))) = type

/-- An argument as both forms state it, with the parameter of the constructor that it is for. -/
structure WrittenArg where
  arg : StatedArg
  isProper : arg.IsProper
  /-- The parameter in the reference to the constructor. -/
  declared : List Char
  declares : DeclaresType declared arg.param
  closed : Balanced '(' ')' declared
  /-- The argument in braces. -/
  token : Token
  states : States arg token

/-- What a line states of an attribute before its value: any tokens between the keyword and the
reference to the constructor. -/
structure AttributeHead where
  leading : List Token
  leadingProper : ∀ token ∈ leading,
    token.IsProper ∧ token.word ≠ "=" ∧ ¬constructorEnd <:+ token.word.toList
  /-- The word that names the constructor. -/
  constructor : String
  isWord : IsWord constructor.toList
  notComment : ¬['/', '/'] <+: constructor.toList ∧ ¬['/', '*'] <+: constructor.toList
  ends : constructorEnd <:+ constructor.toList

namespace AttributeHead

variable (head : AttributeHead) (args : List WrittenArg)

/-- The tokens of a line up to its value. -/
def tokens : List Token :=
  ⟨".custom", none⟩ :: (head.leading ++
    [⟨head.constructor, some (String.ofList (joined (args.map (·.declared))))⟩, ⟨"=", none⟩])

/-- The tokens of a line with a blob. -/
def blobTokens (blob : List Char) : List Token :=
  head.tokens args ++ [⟨"", some (String.ofList blob)⟩]

/-- The tokens of a line with arguments in braces. -/
def verbalTokens : List Token :=
  head.tokens args ++ ⟨"\x7b", none⟩ :: (args.map (·.token) ++ [⟨"\x7d", none⟩])

/-- The name of the type of the attribute. -/
def typeName : String := typeRefName (dropEndPieces constructorEnd head.constructor.toList)

/-! ### Lines that are there -/

theorem balanced_joined {parts : List (List Char)} (h : ∀ part ∈ parts, Balanced '(' ')' part) :
    Balanced '(' ')' (joined parts) := by
  induction parts with
  | nil => exact .nil
  | cons part parts ih =>
    obtain ⟨hpart, hparts⟩ := List.forall_mem_cons.1 h
    cases parts with
    | nil => rwa [joined, List.intercalate_singleton]
    | cons next parts =>
      rw [joined, List.intercalate_cons_cons, List.append_assoc]
      exact balanced_append hpart
        (.char (by decide) (by decide) (by simp) (ih hparts)) (by simp)

theorem isProper_of_mem_tokens : ∀ token ∈ head.tokens args, token.IsProper := by
  have hcustom : Token.IsPlain ⟨".custom", none⟩ := by decide +kernel
  have hequals : Token.IsPlain ⟨"=", none⟩ := by decide +kernel
  rw [tokens, List.forall_mem_cons, List.forall_mem_append, List.forall_mem_cons,
    List.forall_mem_singleton]
  refine ⟨hcustom.isProper, fun token hmem => (head.leadingProper token hmem).1, ?_,
    hequals.isProper⟩
  refine ⟨head.isWord, head.notComment, ?_, fun _ => nofun⟩
  rintro group ⟨⟩
  rw [String.toList_ofList]
  exact balanced_joined (List.forall_mem_map.2 fun arg _ => arg.closed)

theorem exists_spells {tokens : List Token} (h : ∀ token ∈ tokens, token.IsProper) :
    ∃ line, Spells [] tokens line := by
  have hparts : ∀ part ∈ tokens.map (·, [' ']),
      part.1.IsProper ∧ part.2 ≠ [] ∧ ∀ c ∈ part.2, isBlank c = true :=
    List.forall_mem_map.2 fun token hmem => ⟨h token hmem, by simp, by simpa using isBlank_space⟩
  have hspells := spells_spaced hparts (@Spells.done [])
  rw [List.map_map, List.append_nil] at hspells
  exact ⟨_, by simpa [Function.comp_def] using hspells⟩

/-! ### What is read -/

theorem attributeOfLine?_tokens {value : List Token}
    (h : tokenize line = head.tokens args ++ value) :
    attributeOfLine? line =
      some ⟨head.typeName, argsOfValue value (args.map (·.arg.param))⟩ := by
  have hparams : paramTypes (joined (args.map (·.declared))) = args.map (·.arg.param) := by
    refine paramTypes_joined fun arg _ => ?_
    obtain ⟨words, htype, hwrites, hparam⟩ := arg.declares
    exact ⟨_, by simpa using htype.ne_nil, hwrites, fun core hcore => by
      rw [paramType_referred htype hcore, hparam]⟩
  have hends : ¬constructorEnd <:+ ".custom".toList ∧ ¬constructorEnd <:+ "=".toList := by decide
  -- No word before the constructor ends as the constructor does, and none before the equals sign
  -- is one: so the reader meets both where they are meant to stand.
  have hfind : (head.tokens args ++ value).find?
      (fun token => constructorEnd.isSuffixOf token.word.toList) =
        some ⟨head.constructor, some (String.ofList (joined (args.map (·.declared))))⟩ := by
    have hleading : head.leading.find?
        (fun token => constructorEnd.isSuffixOf token.word.toList) = none :=
      List.find?_eq_none.2 fun token hmem => by simpa using (head.leadingProper token hmem).2.2
    rw [tokens, List.cons_append, List.find?_cons_of_neg (by simpa using hends.1),
      List.append_assoc, List.find?_append, hleading, Option.none_or, List.cons_append,
      List.find?_cons_of_pos (by simpa using head.ends)]
  have hsplit : head.tokens args ++ value =
      (⟨".custom", none⟩ :: (head.leading ++
        [⟨head.constructor, some (String.ofList (joined (args.map (·.declared))))⟩])) ++
      ⟨"=", none⟩ :: value := by
    simp [tokens]
  have hvalue : ((head.tokens args ++ value).dropWhile (·.word ≠ "=")).drop 1 = value := by
    rw [hsplit, List.dropWhile_append_of_pos, List.dropWhile_cons_of_neg (by simp)]
    · rfl
    · rw [List.forall_mem_cons, List.forall_mem_append, List.forall_mem_singleton]
      refine ⟨by decide, fun token hmem => ?_, decide_eq_true fun heq => ?_⟩
      · exact decide_eq_true (head.leadingProper token hmem).2.1
      · exact hends.2 (heq ▸ head.ends)
  have hequals : (head.tokens args ++ value).any (·.word = "=") = true := by
    rw [hsplit, List.any_append, List.any_cons]
    simp
  have hhead : (head.tokens args ++ value).head?.any (·.word = ".custom") = true := rfl
  rw [attributeOfLine?]
  dsimp only
  rw [h, hhead, hfind, hequals]
  change some (CustomAttribute.mk head.typeName
    (argsOfValue (((head.tokens args ++ value).dropWhile (·.word ≠ "=")).drop 1)
      (paramTypes (String.ofList (joined (args.map (·.declared)))).toList))) = _
  rw [hvalue, String.toList_ofList, hparams]

/-- The arguments in braces are the ones that are stated. -/
theorem argsOfValue_verbal (params : List String) :
    argsOfValue (⟨"\x7b", none⟩ :: (args.map (·.token) ++ [⟨"\x7d", none⟩])) params =
      args.map (·.arg.value) := by
  have hargs : (args.map (·.token)).filterMap argOfToken? = args.map (·.arg.value) := by
    induction args with
    | nil => rfl
    | cons arg args ih =>
      rw [List.map_cons, List.filterMap_cons, arg.states.argOfToken?_eq arg.isProper]
      exact congrArg _ ih
  have hbrace : argOfToken? ⟨"\x7b", none⟩ = none := rfl
  have hbrace' : argOfToken? ⟨"\x7d", none⟩ = none := rfl
  change (⟨"\x7b", none⟩ :: (args.map (·.token) ++ [⟨"\x7d", none⟩])).filterMap argOfToken? = _
  rw [List.filterMap_cons, hbrace]
  dsimp only
  rw [List.filterMap_append, hargs, List.filterMap_cons, hbrace', List.filterMap_nil,
    List.append_nil]

/-- The arguments in a blob are what their bytes are read as. -/
theorem argsOfValue_blob {more : List UInt8} {blob : List Char}
    (hblob : WritesBytes
      (0x01 :: 0x00 :: ((args.map (·.arg)).flatMap StatedArg.bytes ++ more)) blob) :
    argsOfValue [⟨"", some (String.ofList blob)⟩] (args.map (·.arg.param)) =
      args.map (·.arg.blobValue) := by
  have hproper : ∀ arg ∈ args.map (·.arg), arg.IsProper :=
    List.forall_mem_map.2 fun arg _ => arg.isProper
  have hargs := argsOfBlob_stated hproper more
  rw [List.map_map, List.map_map] at hargs
  change argsOfBlob (bytesOfHex (String.ofList blob).toList) _ = _
  rw [String.toList_ofList, bytesOfHex_writes hblob]
  exact hargs

end AttributeHead

/-- Both lines for an attribute can be written, whatever its constructor and its arguments are and
however the blob is laid out. The line with a blob has the type and the arguments that the bytes are
read as, the line with braces the type and the arguments themselves. These are the same exactly if
each number without a sign is in the range of those with one. -/
theorem attributeOfLine?_forms (head : AttributeHead) (args : List WrittenArg)
    (more : List UInt8) {blob : List Char}
    (hblob : WritesBytes
      (0x01 :: 0x00 :: ((args.map (·.arg)).flatMap StatedArg.bytes ++ more)) blob) :
    (∃ line, Spells [] (head.blobTokens args blob) line) ∧
      (∃ line, Spells [] (head.verbalTokens args) line) ∧
      ∀ blobLine verbalLine, Spells [] (head.blobTokens args blob) blobLine →
        Spells [] (head.verbalTokens args) verbalLine →
        attributeOfLine? blobLine = some ⟨head.typeName, args.map (·.arg.blobValue)⟩ ∧
          attributeOfLine? verbalLine = some ⟨head.typeName, args.map (·.arg.value)⟩ ∧
          (attributeOfLine? blobLine = attributeOfLine? verbalLine ↔
            ∀ arg ∈ args, arg.arg.InSignedRange) := by
  have hhead := head.isProper_of_mem_tokens args
  refine ⟨AttributeHead.exists_spells ?_, AttributeHead.exists_spells ?_,
    fun blobLine verbalLine hblobLine hverbalLine => ?_⟩
  · rw [AttributeHead.blobTokens, List.forall_mem_append, List.forall_mem_singleton]
    refine ⟨hhead, .nil, ⟨by simp, by simp⟩, ?_, fun _ => nofun⟩
    rintro group ⟨⟩
    rw [String.toList_ofList]
    exact hblob.balanced
  · have hopen : Token.IsPlain ⟨"\x7b", none⟩ := by decide +kernel
    have hclose : Token.IsPlain ⟨"\x7d", none⟩ := by decide +kernel
    rw [AttributeHead.verbalTokens, List.forall_mem_append, List.forall_mem_cons,
      List.forall_mem_append, List.forall_mem_singleton, List.forall_mem_map]
    exact ⟨hhead, hopen.isProper, fun arg _ => arg.states.isProper, hclose.isProper⟩
  have hread : attributeOfLine? blobLine = some ⟨head.typeName, args.map (·.arg.blobValue)⟩ := by
    have htokens := tokenize_spells hblobLine
    rw [tokenize, List.append_nil] at htokens
    rw [head.attributeOfLine?_tokens args htokens, AttributeHead.argsOfValue_blob args hblob]
  have hread' : attributeOfLine? verbalLine = some ⟨head.typeName, args.map (·.arg.value)⟩ := by
    have htokens := tokenize_spells hverbalLine
    rw [tokenize, List.append_nil] at htokens
    rw [head.attributeOfLine?_tokens args htokens, AttributeHead.argsOfValue_verbal]
  refine ⟨hread, hread', ?_⟩
  rw [hread, hread', Option.some_inj, CustomAttribute.mk.injEq, and_iff_right rfl,
    List.map_inj_left]
  exact forall₂_congr fun arg _ => StatedArg.blobValue_eq_value_iff

/-! ## A sample -/

/-- A parameter that is one plain word. -/
theorem declaresType_plain {word : String} (h : Token.IsPlain ⟨word, none⟩)
    (hname : word ∉ typeBeginnings ∧ word ∉ "" :: parameterMarkers)
    (hitem : ∀ c ∈ word.toList, Unmarked c ∧ c ≠ ',') (hunpadded : Unpadded word.toList)
    (hnormal : normalize word.toList = word.toList) : DeclaresType word.toList word := by
  have htype : SpellsType [word] := @SpellsType.mk [] [] word nofun hname.1 hname.2 nofun
  have hspells : Spells [] [⟨word, none⟩] (Token.spelled ⟨word, none⟩ ++ []) :=
    .token h.isProper (by simp) .done
  refine ⟨[word], htype, ⟨[], word.toList, [], by simp, by simp, by simp, hunpadded,
    isItem_of_forall_unmarked hitem, ?_⟩, ?_⟩
  · simpa [Token.spelled, spelledGroup] using hspells
  · change String.ofList (normalize word.toList) = word
    rw [hnormal, String.ofList_toList]

theorem declaresType_string : DeclaresType "string".toList "string" :=
  declaresType_plain (by decide +kernel) (by decide +kernel) (by decide +kernel)
    (by decide +kernel) (by decide +kernel)

theorem declaresType_byte : DeclaresType "uint8".toList "uint8" :=
  declaresType_plain (by decide +kernel) (by decide +kernel) (by decide +kernel)
    (by decide +kernel) (by decide +kernel)

theorem declaresType_scoped :
    DeclaresType "class [mscorlib]System.Type".toList "System.Type" := by
  have hword : IsWord "[mscorlib]System.Type".toList :=
    @IsWord.scope "mscorlib".toList "System.Type".toList
      (balanced_of_forall_not_mem (by decide +kernel)) (IsPlainWord.isWord (by decide +kernel))
  have hproper : Token.IsProper ⟨"[mscorlib]System.Type", none⟩ :=
    ⟨hword, by decide, by simp, by simp⟩
  have hitem : IsItem "class [mscorlib]System.Type".toList :=
    (isItem_of_forall_unmarked (s := "class ".toList) (by decide +kernel)).append
      (.nested (by decide +kernel)
        (enclosed_of_forall_unmarked (s := "mscorlib".toList) (by decide +kernel))
        (isItem_of_forall_unmarked (s := "System.Type".toList) (by decide +kernel)))
  have htype : SpellsType ["class", "[mscorlib]System.Type"] :=
    @SpellsType.mk ["class"] [] "[mscorlib]System.Type" (by decide +kernel) (by decide +kernel)
      (by decide +kernel) (by simp)
  refine ⟨["class", "[mscorlib]System.Type"], htype, ?_, by decide +kernel⟩
  refine ⟨[], _, [], (List.append_nil _).symm, by simp, by simp, by decide +kernel, hitem, ?_⟩
  exact @spells_plain _ _ [(⟨"class", none⟩, [' '])] (by decide +kernel) _
    (.token hproper (by simp) .done)

/-- A type in a scope, with a blank before the closing parenthesis. -/
theorem states_scoped :
    States (.fixed (.type ["Sample.Viewer".toList, "Pane".toList] ", Sample".toList))
      ⟨"type", some "class [Sample]Sample.Viewer/Pane "⟩ := by
  have hplain : NamesType "Sample.Viewer/Pane".toList "Sample.Viewer/Pane".toList :=
    .plain (by decide +kernel) (by decide +kernel) (by decide +kernel) (by decide +kernel)
  have hname : NamesType "[Sample]Sample.Viewer/Pane".toList "Sample.Viewer/Pane".toList :=
    @NamesType.inScope "Sample".toList _ _ (balanced_of_forall_not_mem (by decide +kernel))
      (by decide +kernel) (by decide +kernel) hplain
  have hverbal : Verbal (.fixed (.type ["Sample.Viewer".toList, "Pane".toList] ", Sample".toList))
      "type" "class [Sample]Sample.Viewer/Pane".toList :=
    .type (@NamesType.keyword "class".toList [' '] _ _ (by decide +kernel) (by simp)
      (by decide +kernel) hname)
  exact @States.mk _ _ [] _ [' '] hverbal (by simp) (by decide +kernel)

/-- A string. -/
def sampleText : WrittenArg where
  arg := .fixed (.string "Lister".toList)
  isProper := by decide +kernel
  declared := "string".toList
  declares := declaresType_string
  closed := balanced_of_forall_not_mem (by decide +kernel)
  token := ⟨"string", some "'Lister'"⟩
  states := by
    have hverbal : Verbal (.fixed (.string "Lister".toList)) "string" "'Lister'".toList :=
      .string (by decide +kernel)
    exact hverbal.states

/-- A type in a scope. -/
def sampleType : WrittenArg where
  arg := .fixed (.type ["Sample.Viewer".toList, "Pane".toList] ", Sample".toList)
  isProper := by decide +kernel
  declared := "class [mscorlib]System.Type".toList
  declares := declaresType_scoped
  closed := balanced_of_forall_not_mem (by decide +kernel)
  token := ⟨"type", some "class [Sample]Sample.Viewer/Pane "⟩
  states := states_scoped

/-- A number without a sign. -/
def sampleByte (n : Nat) (h : n < 256) : WrittenArg where
  arg := .unsigned 1 n
  isProper := ⟨by decide, h⟩
  declared := "uint8".toList
  declares := declaresType_byte
  closed := balanced_of_forall_not_mem (by decide +kernel)
  token := ⟨"uint8", some (toString (n : Int))⟩
  states := by
    have hstates := (Verbal.unsigned 1 n).states
    rwa [String.ofList_toList] at hstates

/-- A reference to the constructor of an attribute. -/
def sampleHead : AttributeHead where
  leading := [⟨"instance", none⟩, ⟨"void", none⟩]
  leadingProper := by
    have hplain : ∀ token ∈ [(⟨"instance", none⟩ : Token), ⟨"void", none⟩],
        token.IsPlain ∧ token.word ≠ "=" ∧ ¬constructorEnd <:+ token.word.toList := by
      decide +kernel
    exact fun token hmem => ⟨(hplain token hmem).1.isProper, (hplain token hmem).2⟩
  constructor := "Sdk.PluginAttribute::.ctor"
  isWord := IsPlainWord.isWord (by decide +kernel)
  notComment := by decide +kernel
  ends := by decide +kernel

/-- Behind a comment, and with two bytes behind the arguments, a blob is read as what stands in
braces. -/
theorem attributeOfLine?_forms_sample :
    ∃ blobLine verbalLine,
      attributeOfLine? blobLine = attributeOfLine? verbalLine ∧
      attributeOfLine? verbalLine = some ⟨"Sdk.PluginAttribute",
        [.string (some "Lister"), .type "Sample.Viewer/Pane", .integer 100]⟩ := by
  obtain ⟨blob, hblob⟩ := exists_writesBytes (0x01 :: 0x00 :: ((([sampleText, sampleType,
    sampleByte 100 (by decide +kernel)].map (·.arg)).flatMap StatedArg.bytes) ++ [0, 0]))
  obtain ⟨⟨blobLine, hblobLine⟩, ⟨verbalLine, hverbalLine⟩, hread⟩ :=
    attributeOfLine?_forms sampleHead
      [sampleText, sampleType, sampleByte 100 (by decide +kernel)] [0, 0]
      (@WritesBytes.comment "a ( b".toList _ _ (by decide +kernel) hblob)
  obtain ⟨-, hverbal, hsame⟩ := hread blobLine verbalLine hblobLine hverbalLine
  refine ⟨blobLine, verbalLine, hsame.2 (by decide +kernel), hverbal.trans ?_⟩
  decide +kernel

/-- A byte without a sign that needs its highest bit is read as a negative number in a blob, and the
name of a type in quotes is cut at an angle bracket in braces. -/
theorem exists_forms_apart :
    attributeOfLine? ".custom LimitAttribute::.ctor(uint8) = ( 01 00 C8 00 00 )".toList =
        some ⟨"LimitAttribute", [.integer (-56)]⟩ ∧
      attributeOfLine? ".custom LimitAttribute::.ctor(uint8) = \x7b uint8(200) \x7d".toList =
        some ⟨"LimitAttribute", [.integer 200]⟩ ∧
      attributeOfLine?
          ".custom TypeAttribute::.ctor(class System.Type) = ( 01 00 03 3C 3E 63 00 00 )".toList =
        some ⟨"TypeAttribute", [.type "<>c"]⟩ ∧
      attributeOfLine?
          ".custom TypeAttribute::.ctor(class System.Type) = \x7b type(class '<>c') \x7d".toList =
        some ⟨"TypeAttribute", [.type ""]⟩ := by
  decide +kernel

end PluginBuild.Metadata
