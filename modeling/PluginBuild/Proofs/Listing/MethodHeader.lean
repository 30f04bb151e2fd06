import PluginBuild.Listing.MethodHeader
import PluginBuild.Proofs.Listing.Item
/-!
# Method headers

A method is declared by words and qualifiers, its name and its parameter list. The words before the
name each say one thing (`addWord_eq`), so that of the words on one matter the last counts
(`foldl_addWord`), and what a declaration spells is the header that is read from it
(`declaration_spells`). A quoted name with generic parameters keeps both
(`exists_header_misread`).
-/

namespace PluginBuild.Listing.MethodHeader

open Metadata (Visibility)
open Text (isBlank)

/-! ### The words before the name -/

/-- What a word says about being static. -/
def staticOfKeyword? (word : String) : Option Bool :=
  if word = "static" then some true else if word = "instance" then some false else none

/-- A word changes what it is a keyword for and nothing else. -/
theorem addWord_eq (header : MethodHeader) (word : String) :
    header.addWord word =
      { header with
        visibility := (Visibility.ofKeyword? word).getD header.visibility
        isStatic := (staticOfKeyword? word).getD header.isStatic
        isVirtual := header.isVirtual || word = "virtual"
        isAbstract := header.isAbstract || word = "abstract"
        isNewslot := header.isNewslot || word = "newslot"
        isFinal := header.isFinal || word = "final" } := by
  unfold addWord
  split
  · -- No keyword for a visibility is one of the others.
    next visibility h =>
    unfold Visibility.ofKeyword? at h ⊢
    split at h
    case h_9 => cases h
    all_goals
      cases h
      simp [staticOfKeyword?]
  · next h =>
    rw [h]
    split
    case h_7 hstatic hinstance hvirtual habstract hnewslot hfinal =>
      rw [staticOfKeyword?, if_neg hstatic, if_neg hinstance, decide_eq_false hvirtual,
        decide_eq_false habstract, decide_eq_false hnewslot, decide_eq_false hfinal]
      simp
    all_goals simp [staticOfKeyword?]

theorem getLast?_filterMap_cons {α β : Type} (read : α → Option β) (a : α) (l : List α) (b : β) :
    ((a :: l).filterMap read).getLast?.getD b =
      (l.filterMap read).getLast?.getD ((read a).getD b) := by
  rw [List.filterMap_cons]
  cases read a with
  | none => rfl
  | some c => simp [List.getLast?_cons]

/-- Of the words on one matter the last counts. -/
theorem foldl_addWord (header : MethodHeader) (words : List String) :
    words.foldl addWord header =
      { header with
        visibility := (words.filterMap Visibility.ofKeyword?).getLast?.getD header.visibility
        isStatic := (words.filterMap staticOfKeyword?).getLast?.getD header.isStatic
        isVirtual := header.isVirtual || "virtual" ∈ words
        isAbstract := header.isAbstract || "abstract" ∈ words
        isNewslot := header.isNewslot || "newslot" ∈ words
        isFinal := header.isFinal || "final" ∈ words } := by
  induction words generalizing header with
  | nil => simp
  | cons word words ih =>
    rw [List.foldl_cons, ih, addWord_eq, getLast?_filterMap_cons, getLast?_filterMap_cons]
    simp [Bool.or_assoc, eq_comm]

/-! ### The name -/

/-- A token that can stand before the name: a word, or marshaling facts in a group. -/
def Qualifies (token : Token) : Prop :=
  token.group = none ∨ token.word ∈ qualifiers ∨ token.word = ""

instance : DecidablePred Qualifies :=
  fun _ => inferInstanceAs (Decidable (_ ∨ _))

/-- The words among the tokens, without those that a group follows. -/
def keywords (tokens : List Token) : List String :=
  (tokens.filter (·.group = none)).map (·.word)

theorem complete?_append {tokens : List Token} (h : ∀ token ∈ tokens, Qualifies token)
    (header : MethodHeader) (rest : List Token) :
    complete? header (tokens ++ rest) =
      complete? ((keywords tokens).foldl addWord header) rest := by
  induction tokens generalizing header with
  | nil => rfl
  | cons token tokens ih =>
    obtain ⟨htoken, htokens⟩ := List.forall_mem_cons.1 h
    rw [List.cons_append, complete?]
    cases hgroup : token.group with
    | none => simp [keywords, hgroup, ih htokens]
    | some group =>
      have hqualifier : token.word ∈ qualifiers ∨ token.word = "" :=
        htoken.resolve_left (by simp [hgroup])
      dsimp only
      rw [if_pos hqualifier, ih htokens]
      simp [keywords, hgroup]

/-- How a method is named: the word before its parameter list, and the name that is read in it. -/
inductive Names : List Char → List Char → Prop
  | identifier {word name : List Char} (h : Identifies word name)
    (hkeyword : String.ofList word ∉ qualifiers) : Names word name
  /-- A quoted name with generic parameters is left as it is written. -/
  | quotedGeneric {name params : List Char} (hname : LiteralBody '\'' name)
    (hparams : Balanced '<' '>' params) :
    Names ('\'' :: (name ++ '\'' :: '<' :: (params ++ ['>'])))
      ('\'' :: (name ++ '\'' :: '<' :: (params ++ ['>'])))

variable {word name rest : List Char}

theorem nameOfWord_identifier (h : Identifies word name) : nameOfWord word = name := by
  cases h with
  | plain hne hname =>
    rw [nameOfWord, if_neg (head?_of_isPlainWord hne hname), takeWhile_plain hname.not_mem]
  | generic hne hname =>
    rw [nameOfWord, if_neg (head?_append_of_isPlainWord hne hname _)]
    exact takeWhile_generic hname.not_mem (by simp)
  | quoted => rw [nameOfWord, List.head?_cons, if_pos rfl, unquote_quoted]

theorem Names.nameOfWord_eq (h : Names word name) : nameOfWord word = name := by
  cases h with
  | identifier h => exact nameOfWord_identifier h
  | @quotedGeneric name params =>
    have hlast : (name ++ '\'' :: '<' :: (params ++ ['>'])).getLast? = some '>' := by
      rw [← List.cons_append, ← List.cons_append, ← List.append_assoc, List.getLast?_concat]
    rw [nameOfWord, List.head?_cons, if_pos rfl, unquote, hlast]
    exact if_neg (by simp)

/-- No word that names a method is passed over. -/
theorem Names.not_qualifier (h : Names word name) :
    ¬(String.ofList word ∈ qualifiers ∨ String.ofList word = "") := by
  have hhead : ∀ qualifier ∈ "" :: qualifiers, qualifier.toList.head? ≠ some '\'' := by decide
  cases h with
  | identifier h hkeyword =>
    rintro (hword | hword)
    · exact hkeyword hword
    · rw [String.ofList_eq_empty_iff] at hword
      cases h <;> simp_all
  | quotedGeneric =>
    rintro (hword | hword)
    · exact hhead _ (.tail _ hword) (by rw [String.toList_ofList, List.head?_cons])
    · exact hhead _ (.head _) (by rw [← hword, String.toList_ofList, List.head?_cons])

/-! ### Declarations -/

/-- A method's declaration states the words before its name, its name and its parameters, whatever
blanks and comments stand between them and whatever follows. -/
theorem declaration_spells {tokens : List Token} {params : String} {text : List Char}
    (htokens : ∀ token ∈ tokens, Qualifies token) (hname : Names word name)
    (htext : Spells rest (⟨".method", none⟩ :: (tokens ++ [⟨String.ofList word, some params⟩]))
      text) :
    ofDeclaration? text = some
      { name := String.ofList name
        signature := String.ofList word ++ "(" ++ params ++ ")"
        params
        visibility :=
          ((keywords tokens).filterMap Visibility.ofKeyword?).getLast?.getD .private
        isStatic := ((keywords tokens).filterMap staticOfKeyword?).getLast?.getD false
        isVirtual := "virtual" ∈ keywords tokens
        isAbstract := "abstract" ∈ keywords tokens
        isNewslot := "newslot" ∈ keywords tokens
        isFinal := "final" ∈ keywords tokens } := by
  have htoken : complete? ((keywords tokens).foldl addWord unnamed)
      (⟨String.ofList word, some params⟩ :: tokenize rest) = some
        { (keywords tokens).foldl addWord unnamed with
          name := String.ofList name
          signature := String.ofList word ++ "(" ++ params ++ ")"
          params } := by
    rw [complete?]
    dsimp only
    rw [if_neg hname.not_qualifier, String.toList_ofList, hname.nameOfWord_eq]
  rw [ofDeclaration?, tokenize_spells htext, List.cons_append]
  dsimp only
  rw [if_pos rfl, List.append_assoc, complete?_append htokens, List.singleton_append, htoken,
    foldl_addWord]
  simp [unnamed]

/-- The tokens before the name of a sample method, with the blanks behind them. -/
def sampleTokens : List (Token × List Char) :=
  [(⟨"public", none⟩, [' ']), (⟨"newslot", none⟩, [' ']), (⟨"virtual", none⟩, [' ']),
    (⟨"instance", none⟩, ['\n', ' ']), (⟨"string", none⟩, [' ']),
    (⟨"marshal", some "bstr"⟩, ['\n', ' '])]

theorem declaration_spells_sampleTokens :
    ofDeclaration? (".method public newslot virtual instance\n string marshal(bstr)\n " ++
      "'Find <First>'(int32 i) cil managed").toList =
      some ⟨"Find <First>", "'Find <First>'(int32 i)", "int32 i", .public, false, true, false, true,
        false⟩ := by
  have hname : LiteralBody '\'' "Find <First>".toList := literalBody_of_forall_ne (by decide)
  have hplain : ∀ part ∈ (⟨".method", none⟩, [' ']) :: sampleTokens,
      Token.IsPlain part.1 ∧ part.2 ≠ [] ∧ ∀ c ∈ part.2, isBlank c = true := by
    decide +kernel
  have hproper : Token.IsProper ⟨"'Find <First>'", some "int32 i"⟩ := by
    refine ⟨.literal (by decide) hname .nil, by decide, ?_, by decide⟩
    rintro group ⟨⟩
    exact balanced_of_forall_not_mem (by decide)
  have hspells : Spells "cil managed".toList
      (⟨".method", none⟩ :: (sampleTokens.map Prod.fst ++ [⟨"'Find <First>'", some "int32 i"⟩]))
      (".method public newslot virtual instance\n string marshal(bstr)\n " ++
        "'Find <First>'(int32 i) cil managed").toList := by
    refine @spells_spaced _ _ ((⟨".method", none⟩, [' ']) :: (sampleTokens ++
      [(⟨"'Find <First>'", some "int32 i"⟩, [' '])])) ?_ _ .done
    rw [← List.cons_append, List.forall_mem_append, List.forall_mem_singleton]
    exact ⟨fun part hpart => ⟨(hplain part hpart).1.isProper, (hplain part hpart).2⟩, hproper,
      by decide +kernel⟩
  exact (declaration_spells (by decide) (.identifier (.quoted hname) (by decide)) hspells).trans
    (by decide)

/-- A quoted name with generic parameters is kept with both, so that it is not the name of the
method; and a comment directly behind a word belongs to the word, so that what it says counts. -/
theorem exists_header_misread :
    (ofDeclaration? ".method public static void 'Get All'<T>(int32 i) cil managed".toList).map
        (·.name) = some "'Get All'<T>" ∧
      (ofDeclaration? ".method private static// public instance\n void M()".toList).map
        (fun header => (header.visibility, header.isStatic)) = some (.public, false) := by
  decide +kernel

end PluginBuild.Listing.MethodHeader
