import PluginBuild.Proofs.Metadata.AttributeBlob
import PluginBuild.Proofs.Metadata.HexText
import PluginBuild.Proofs.Metadata.NormalType
/-!
# Arguments in their two forms

An argument of an attribute is stated by bytes in a blob or by a word with a group in braces
(`StatedArg`, `States`). The word and its group are read as the argument. So are the bytes, but for
numbers without a sign that need their highest bit, which a blob is read as negative numbers
(`StatedArg.blobValue_eq_value_iff`).
-/

namespace PluginBuild.Metadata

open Listing Text

variable {s t : List Char}

/-- An argument that a blob and a list in braces can state alike. -/
inductive StatedArg
  | fixed (arg : FixedArg)
  /-- A number without a sign, of the given number of bytes. -/
  | unsigned (width value : Nat)

namespace StatedArg

/-- What an argument can be stated for: what is proper in a blob, and a number without a sign in
the range of its width. -/
def IsProper : StatedArg → Prop
  | fixed arg => arg.IsProper
  | unsigned width value => width ∈ [1, 2, 4] ∧ value < 2 ^ (8 * width)

instance : DecidablePred IsProper
  | fixed arg => inferInstanceAs (Decidable arg.IsProper)
  | unsigned _ _ => inferInstanceAs (Decidable (_ ∧ _))

/-- The type of the parameter that an argument is for. -/
def param : StatedArg → String
  | fixed arg => arg.param
  | unsigned width _ => if width = 1 then "uint8" else if width = 2 then "uint16" else "uint32"

/-- The bytes that are written for an argument. -/
def bytes : StatedArg → List UInt8
  | fixed arg => arg.bytes
  | unsigned width value => numberBytes width value

/-- The argument itself. -/
def value : StatedArg → AttributeArg
  | fixed arg => arg.value
  | unsigned _ value => .integer value

/-- What the bytes of an argument are read as. -/
def blobValue : StatedArg → AttributeArg
  | fixed arg => arg.value
  | unsigned width value => .integer (signedOf width value)

/-- Whether an argument is anything but a number that is as great as only numbers without a sign
are. -/
def InSignedRange : StatedArg → Prop
  | fixed _ => True
  | unsigned width value => value < 2 ^ (8 * width - 1)

instance : DecidablePred InSignedRange
  | fixed _ => inferInstanceAs (Decidable True)
  | unsigned _ _ => inferInstanceAs (Decidable (_ < _))

/-- The bytes are read as the argument exactly if it is in the range of numbers with a sign. -/
theorem blobValue_eq_value_iff {arg : StatedArg} :
    arg.blobValue = arg.value ↔ arg.InSignedRange := by
  cases arg with
  | fixed arg => exact iff_of_true rfl trivial
  | unsigned width value =>
    have hpos := Nat.two_pow_pos (8 * width)
    rw [blobValue, StatedArg.value, AttributeArg.integer.injEq]
    change (if value < 2 ^ (8 * width - 1) then (value : Int)
      else Int.subNatNat value (2 ^ (8 * width))) = value ↔ value < 2 ^ (8 * width - 1)
    constructor
    · intro heq
      by_contra hge
      rw [if_neg hge, Int.subNatNat_eq_coe] at heq
      omega
    · intro hlt
      exact if_pos hlt

/-- The bytes of an argument hold what they are read as. -/
theorem holds {arg : StatedArg} (h : arg.IsProper) :
    HoldsArg arg.param arg.bytes arg.blobValue := by
  cases arg with
  | fixed arg => exact (arg.field h).holds
  | unsigned width value =>
    obtain ⟨hwidth, hvalue⟩ := h
    have hlength : (numberBytes width value).length = width := length_numberBytes width value
    have hnumber : littleEndian (numberBytes width value) = value := by
      rw [littleEndian_numberBytes, show 256 ^ width = 2 ^ (8 * width) from
        (Nat.pow_mul 2 8 width).symm, Nat.mod_eq_of_lt hvalue]
    have hmem : ((unsigned width value).param, (numberBytes width value).length) ∈
        integerWidths := by
      rw [hlength]
      simp only [List.mem_cons, List.not_mem_nil, or_false] at hwidth
      rcases hwidth with rfl | rfl | rfl <;> simp [param, integerWidths]
    have hholds := HoldsArg.integer hmem
    rwa [hlength, hnumber] at hholds

end StatedArg

/-- A blob with the bytes of arguments is read as what each is read as, whatever follows. -/
theorem argsOfBlob_stated {args : List StatedArg} (h : ∀ arg ∈ args, arg.IsProper)
    (more : List UInt8) :
    argsOfBlob (0x01 :: 0x00 :: (args.flatMap StatedArg.bytes ++ more))
      (args.map StatedArg.param) = args.map StatedArg.blobValue := by
  change argsFrom (args.flatMap StatedArg.bytes ++ more) (args.map StatedArg.param) = _
  induction args with
  | nil => rfl
  | cons arg args ih =>
    obtain ⟨harg, hargs⟩ := List.forall_mem_cons.1 h
    have htake : takeArg? arg.param (arg.bytes ++ (args.flatMap StatedArg.bytes ++ more)) =
        some (arg.blobValue, args.flatMap StatedArg.bytes ++ more) :=
      takeArg?_eq_some_iff.2 ⟨arg.bytes, StatedArg.holds harg, rfl⟩
    rw [List.flatMap_cons, List.append_assoc, List.map_cons, argsFrom, htake]
    dsimp only
    rw [ih hargs, List.map_cons]

/-! ### In braces -/

/-- A text that can stand in parentheses, and one behind it that begins no comment with it, can
stand there together. -/
theorem balanced_append (hs : Balanced '(' ')' s) (ht : Balanced '(' ')' t)
    (hslash : t.head? ≠ some '/') : Balanced '(' ')' (s ++ t) := by
  -- Along the first text. Only at its last character can a comment begin that was not there.
  induction hs with
  | nil => exact ht
  | @char c s hquote hbracket hcomment _ ih =>
    refine .char hquote hbracket (fun hnext => ?_) ih
    cases s with
    | nil => exact hslash hnext.2
    | cons d s => exact hcomment hnext
  | literal hquote hbody _ ih =>
    rw [List.cons_append, List.append_assoc]
    exact .literal hquote hbody ih
  | comment hbody _ ih =>
    rw [List.cons_append, List.cons_append, List.append_assoc]
    exact .comment hbody ih
  | nested hinner _ _ ih =>
    rw [List.cons_append, List.append_assoc]
    exact .nested hinner ih

/-- What has no quotes and parentheses in it and begins no comment can stand in parentheses. -/
theorem balanced_of_not_infix (hs : ∀ c ∈ s, c ∉ quotes ∧ c ≠ '(' ∧ c ≠ ')')
    (h : ¬['/', '/'] <:+: s) : Balanced '(' ')' s := by
  induction s with
  | nil => exact .nil
  | cons c s ih =>
    obtain ⟨⟨hquote, hparens⟩, hrest⟩ := List.forall_mem_cons.1 hs
    refine .char hquote hparens (fun hnext => ?_)
      (ih hrest fun hin => h (hin.trans (List.suffix_cons c s).isInfix))
    obtain ⟨rfl, hhead⟩ := hnext
    obtain ⟨more, rfl⟩ := List.head?_eq_some_iff.1 hhead
    exact h ⟨[], more, rfl⟩

theorem balanced_blanks (hs : ∀ c ∈ s, isBlank c = true) (ht : Balanced '(' ')' t) :
    Balanced '(' ')' (s ++ t) := by
  induction s with
  | nil => exact ht
  | cons c s ih =>
    obtain ⟨hc, hs⟩ := List.forall_mem_cons.1 hs
    exact balanced_blank hc (ih hs)

/-- What names a type in braces: its name, plain or in quotes, behind a scope and the word for its
sort. What stands in quotes has to be in the one form of types already. -/
inductive NamesType : List Char → List Char → Prop
  | plain {name : List Char} (hne : name ≠ []) (hname : IsPlainName name)
    (hcomment : ¬['/', '/'] <:+: name) (hkeyword : isTypeKeyword name = false) :
    NamesType name name
  | quoted {name : List Char} (hname : ∀ c ∈ name, c ∉ ['\'', '\\', '<'])
    (hnormal : normalize ('\'' :: (name ++ ['\''])) = '\'' :: (name ++ ['\''])) :
    NamesType ('\'' :: (name ++ ['\''])) name
  | inScope {scope word name : List Char} (hscope : Balanced '(' ')' scope) (hclosed : ']' ∉ scope)
    (hbounds : isArrayBounds scope = false) (hword : NamesType word name) :
    NamesType ('[' :: (scope ++ ']' :: word)) name
  | keyword {keyword blanks word name : List Char} (hkeyword : isTypeKeyword keyword = true)
    (hne : blanks ≠ []) (hblanks : ∀ c ∈ blanks, isBlank c = true) (hword : NamesType word name) :
    NamesType (keyword ++ (blanks ++ word)) name

theorem typeKeyword_cases {keyword : List Char} (h : isTypeKeyword keyword = true) :
    keyword = "class".toList ∨ keyword = "valuetype".toList := by
  simpa [isTypeKeyword] using h

/-- The word for the sort of a type is not part of its one form. -/
theorem normalize_keyword {keyword blanks : List Char} (hkeyword : isTypeKeyword keyword = true)
    (hne : blanks ≠ []) (hblanks : ∀ c ∈ blanks, isBlank c = true) (s : List Char) :
    normalize (keyword ++ (blanks ++ s)) = normalize s := by
  have hadded : Addition [] (keyword ++ blanks) :=
    .keyword .start (typeKeyword_cases hkeyword) hne hblanks
  have hsame := normalize_addition hadded s
  rwa [List.nil_append, List.nil_append, List.append_assoc] at hsame

namespace NamesType

variable {word name : List Char}

theorem typeRefName_eq (h : NamesType word name) : typeRefName word = String.ofList name := by
  induction h with
  | plain hne hname _ hkeyword => exact typeRefName_plain hne hname hkeyword
  | quoted hname hnormal =>
    exact typeRefName_quoted (fun hmem => hname _ hmem (by decide)) hnormal
  | inScope _ hclosed hbounds _ ih => rw [typeRefName_scope hclosed hbounds, ih]
  | keyword hkeyword hne hblanks _ ih =>
    rw [← ih, typeRefName, typeRefName, normalize_keyword hkeyword hne hblanks]

theorem balanced (h : NamesType word name) : Balanced '(' ')' word := by
  induction h with
  | @plain name _ hname hcomment _ =>
    refine balanced_of_not_infix (fun c hc => ?_) hcomment
    have hmarks := unmarked_iff.1 (hname c hc).2.1
    simp only [List.mem_cons, not_or] at hmarks
    simp [quotes, hmarks]
  | @quoted name hname =>
    refine .literal (by decide) (literalBody_of_forall_ne fun c hc => ?_) .nil
    have hmarks := hname c hc
    simp only [List.mem_cons, not_or] at hmarks
    exact ⟨hmarks.2.1, hmarks.1⟩
  | inScope hscope _ _ _ ih =>
    have hclose : Balanced '(' ')' (']' :: _) := .char (by decide) (by decide) (by simp) ih
    exact .char (by decide) (by decide) (by simp) (balanced_append hscope hclose (by simp))
  | @keyword keyword blanks word name hkeyword hne hblanks _ ih =>
    have hword : Balanced '(' ')' keyword := by
      rcases typeKeyword_cases hkeyword with rfl | rfl
      all_goals exact balanced_of_forall_not_mem (by decide)
    refine balanced_append hword (balanced_blanks hblanks ih) ?_
    obtain ⟨b, blanks, rfl⟩ := List.exists_cons_of_ne_nil hne
    rw [List.cons_append, List.head?_cons, ne_eq, Option.some_inj]
    exact ne_of_isBlank (hblanks b List.mem_cons_self) (by decide +kernel)

theorem unpadded (h : NamesType word name) : word ≠ [] ∧ Unpadded word := by
  induction h with
  | @plain name hne hname =>
    exact ⟨hne, unpadded_of_forall fun c hc => (hname c hc).1⟩
  | @quoted name =>
    have hquote : isBlank '\'' = false := by decide +kernel
    exact ⟨by simp, unpadded_between hquote hquote name⟩
  | @inScope scope word name _ _ _ _ ih =>
    refine ⟨by simp, ?_, ?_⟩
    · rintro c ⟨⟩
      decide +kernel
    · rw [← List.cons_append, List.append_cons, List.getLast?_append_of_ne_nil _ ih.1]
      exact ih.2.2
  | @keyword keyword blanks word name hkeyword _ _ _ ih =>
    rw [← List.append_assoc]
    refine ⟨by simp [ih.1], ?_, ?_⟩
    · rcases typeKeyword_cases hkeyword with rfl | rfl
      all_goals
        rintro c ⟨⟩
        decide +kernel
    · rw [List.getLast?_append_of_ne_nil _ ih.1]
      exact ih.2.2

end NamesType

/-- The text of an argument in braces and the word before it. -/
inductive Verbal : StatedArg → String → List Char → Prop
  | string {text : List Char} (htext : ∀ c ∈ text, c ≠ '\'' ∧ c ≠ '\\') :
    Verbal (.fixed (.string text)) "string" ('\'' :: (text ++ ['\'']))
  | nullString : Verbal (.fixed .nullString) "string" "nullref".toList
  | type {names : List (List Char)} {assembly word : List Char}
    (h : NamesType word (List.intercalate ['/'] names)) :
    Verbal (.fixed (.type names assembly)) "type" word
  | boolean (value : Bool) :
    Verbal (.fixed (.boolean value)) "bool" (if value then "true".toList else "false".toList)
  | integer (width : Nat) (value : Int) :
    Verbal (.fixed (.integer width value)) (FixedArg.integer width value).param
      (toString value).toList
  | unsigned (width value : Nat) :
    Verbal (.unsigned width value) (StatedArg.unsigned width value).param
      (toString (value : Int)).toList

/-- The token that states an argument in braces. There may be blanks in its parentheses. -/
inductive States (arg : StatedArg) : Token → Prop
  | mk {word : String} {before core after : List Char} (h : Verbal arg word core)
    (hbefore : ∀ c ∈ before, isBlank c = true) (hafter : ∀ c ∈ after, isBlank c = true) :
    States arg ⟨word, some (String.ofList (before ++ (core ++ after)))⟩

theorem Verbal.states {arg : StatedArg} {word : String} {core : List Char}
    (h : Verbal arg word core) : States arg ⟨word, some (String.ofList core)⟩ := by
  have hstates := @States.mk arg word [] core [] h nofun nofun
  rwa [List.nil_append, List.append_nil] at hstates

/-! ### Numerals -/

/-- A digit is neither a blank nor a mark. -/
theorem plain_of_isDigit {c : Char} (h : c.isDigit = true) :
    isBlank c = false ∧ c ∉ ['\'', '"', '(', ')', '/', '-', '+'] := by
  have hmarks : ∀ d ∈ ['\'', '"', '(', ')', '/', '-', '+'], d.isDigit = false := by decide
  exact ⟨isBlank_of_isDigit h, fun hmem => Bool.false_ne_true ((hmarks c hmem).symm.trans h)⟩

/-- The numeral of a number has a sign or not, and digits. -/
theorem toString_int_cases (n : Int) :
    ∃ m : Nat, (n = m ∧ (toString n).toList = Nat.toDigits 10 m) ∨
      (n = -(m : Int) ∧ (toString n).toList = '-' :: Nat.toDigits 10 m) := by
  cases n with
  | ofNat m => exact ⟨m, .inl ⟨rfl, Nat.toList_repr⟩⟩
  | negSucc m => exact ⟨m + 1, .inr ⟨rfl, toList_toString_neg m⟩⟩

theorem signed?_toString {n : Int} (hleast : minInt64 ≤ n) (hmost : n ≤ maxInt64) :
    signed? minInt64 maxInt64 (toString n).toList = some n := by
  obtain ⟨m, ⟨rfl, htext⟩ | ⟨rfl, htext⟩⟩ := toString_int_cases n
  · have hhead : ∀ c ∈ (Nat.toDigits 10 m).head?, c ∉ ['-', '+'] := fun c hc hmem =>
      (plain_of_isDigit (isDigit_of_mem_toDigits (List.mem_of_mem_head? hc))).2
        (List.mem_append_right ['\'', '"', '(', ')', '/'] hmem)
    have hdigits := digits?_toDigits m
    rw [htext]
    generalize Nat.toDigits 10 m = digits at hhead hdigits
    unfold signed?
    split
    · exact absurd (List.mem_cons_self) (hhead _ rfl)
    · exact absurd (List.mem_cons_of_mem _ List.mem_cons_self) (hhead _ rfl)
    · simp [hdigits, hleast, hmost]
  · rw [htext, signed?]
    simp [digits?_toDigits, hleast, hmost]

/-! ### Tokens in braces -/

section

variable {arg : StatedArg} {word : String} {core : List Char}

theorem numeral_plain (n : Int) :
    Balanced '(' ')' (toString n).toList ∧ Unpadded (toString n).toList := by
  have hplain : ∀ c ∈ (toString n).toList, isBlank c = false ∧ c ∉ ['\'', '"', '(', ')', '/'] := by
    have hdigits (m : Nat) : ∀ c ∈ Nat.toDigits 10 m,
        isBlank c = false ∧ c ∉ ['\'', '"', '(', ')', '/'] := by
      intro c hc
      obtain ⟨hblank, hmarks⟩ := plain_of_isDigit (isDigit_of_mem_toDigits hc)
      exact ⟨hblank, fun hmem => hmarks (List.mem_append_left ['-', '+'] hmem)⟩
    obtain ⟨m, ⟨-, htext⟩ | ⟨-, htext⟩⟩ := toString_int_cases n
    · rw [htext]
      exact hdigits m
    · rw [htext, List.forall_mem_cons]
      exact ⟨by decide +kernel, hdigits m⟩
  refine ⟨balanced_of_forall_not_mem fun c hc => ?_, unpadded_of_forall fun c hc => ?_⟩
  · have hmarks := (hplain c hc).2
    simp only [List.mem_cons, not_or] at hmarks
    simp [quotes, hmarks]
  · exact (hplain c hc).1

theorem Verbal.core_plain (h : Verbal arg word core) : Balanced '(' ')' core ∧ Unpadded core := by
  cases h with
  | @string text htext =>
    refine ⟨.literal (by decide) (literalBody_of_forall_ne fun c hc => (htext c hc).symm) .nil,
      ?_, ?_⟩
    · rintro c ⟨⟩
      decide +kernel
    · rw [← List.cons_append, List.getLast?_concat]
      rintro c ⟨⟩
      decide +kernel
  | nullString => exact ⟨balanced_of_forall_not_mem (by decide), by decide +kernel⟩
  | type h => exact ⟨h.balanced, h.unpadded.2⟩
  | boolean value =>
    cases value
    all_goals exact ⟨balanced_of_forall_not_mem (by decide), by decide +kernel⟩
  | integer width value => exact numeral_plain value
  | unsigned width value => exact numeral_plain value

/-- The words of arguments in braces. -/
def verbalWords : List String :=
  ["string", "type", "bool", "int8", "int16", "int32", "int64", "uint8", "uint16", "uint32"]

theorem Verbal.word_mem (h : Verbal arg word core) : word ∈ verbalWords := by
  cases h with
  | string => decide
  | nullString => decide
  | type => decide
  | boolean => decide
  | integer width value =>
    rw [FixedArg.param]
    split_ifs <;> decide
  | unsigned width value =>
    rw [StatedArg.param]
    split_ifs <;> decide

/-- What stands behind the word for a number is read as a number. -/
theorem argOfToken?_number (hword : word ∈ verbalWords.drop 3) {group : String} {n : Int}
    (hnumber : signed? minInt64 maxInt64 (trim group.toList) = some n) :
    argOfToken? ⟨word, some group⟩ = some (.integer n) := by
  have hconditions : ∀ word ∈ verbalWords.drop 3, word ≠ "string" ∧ word ≠ "type" ∧
      word ≠ "bool" ∧ ("int".toList.isPrefixOf word.toList ∨
        "uint".toList.isPrefixOf word.toList) := by
    decide
  obtain ⟨hstring, htype, hbool, hint⟩ := hconditions word hword
  rw [argOfToken?, Option.map_some]
  dsimp only
  rw [if_neg hstring, if_neg htype, if_neg hbool, if_pos hint, hnumber]

/-- Numbers of at most eight bytes are in the range of numbers in braces. -/
theorem bounds_of_isProper {width : Nat} {n : Int}
    (h : (FixedArg.integer width n).IsProper) : minInt64 ≤ n ∧ n ≤ maxInt64 := by
  obtain ⟨hwidth, hleast, hmost⟩ := h
  simp only [List.mem_cons, List.not_mem_nil, or_false] at hwidth
  rw [minInt64, maxInt64]
  rcases hwidth with rfl | rfl | rfl | rfl <;> omega

theorem bounds_of_isProper_unsigned {width n : Nat}
    (h : (StatedArg.unsigned width n).IsProper) : minInt64 ≤ (n : Int) ∧ (n : Int) ≤ maxInt64 := by
  obtain ⟨hwidth, hmost⟩ := h
  simp only [List.mem_cons, List.not_mem_nil, or_false] at hwidth
  rw [minInt64, maxInt64]
  rcases hwidth with rfl | rfl | rfl <;> omega

theorem Verbal.argOfToken?_eq (h : Verbal arg word core) (harg : arg.IsProper) {group : String}
    (hgroup : trim group.toList = core) : argOfToken? ⟨word, some group⟩ = some arg.value := by
  cases h with
  | @string text htext =>
    have hnull : ('\'' :: (text ++ ['\''])) ≠ "nullref".toList := by
      rintro ⟨⟩
    rw [argOfToken?, Option.map_some]
    dsimp only
    rw [hgroup, if_pos rfl, if_neg hnull, unquote_quoted]
    rfl
  | nullString =>
    rw [argOfToken?, Option.map_some]
    dsimp only
    rw [hgroup]
    rfl
  | type h =>
    rw [argOfToken?, Option.map_some]
    dsimp only
    rw [hgroup, if_neg (by decide), if_pos rfl, h.typeRefName_eq]
    rfl
  | boolean value =>
    rw [argOfToken?, Option.map_some]
    dsimp only
    rw [hgroup]
    cases value <;> rfl
  | integer width value =>
    obtain ⟨hleast, hmost⟩ := bounds_of_isProper harg
    refine argOfToken?_number ?_ (by rw [hgroup, signed?_toString hleast hmost])
    rw [FixedArg.param]
    split_ifs <;> decide
  | unsigned width value =>
    obtain ⟨hleast, hmost⟩ := bounds_of_isProper_unsigned harg
    refine argOfToken?_number ?_ (by rw [hgroup, signed?_toString hleast hmost])
    rw [StatedArg.param]
    split_ifs <;> decide

end

theorem States.isProper {arg : StatedArg} {token : Token} (h : States arg token) :
    token.IsProper := by
  obtain ⟨hverbal, hbefore, hafter⟩ := h
  have hwords : ∀ word ∈ verbalWords, IsPlainWord word.toList ∧ word.toList.head? ≠ some '/' ∧
      word ≠ "" := by
    decide +kernel
  obtain ⟨hplain, hslash, hne⟩ := hwords _ hverbal.word_mem
  refine ⟨hplain.isWord, ⟨?_, ?_⟩, ?_, fun hempty => absurd hempty hne⟩
  · rintro ⟨more, hmore⟩
    exact hslash (by rw [← hmore]; rfl)
  · rintro ⟨more, hmore⟩
    exact hslash (by rw [← hmore]; rfl)
  · rintro group ⟨⟩
    rw [String.toList_ofList]
    refine balanced_blanks hbefore (balanced_append hverbal.core_plain.1 ?_ ?_)
    · have hblanks := balanced_blanks hafter .nil
      rwa [List.append_nil] at hblanks
    · intro hhead
      have hblank := hafter _ (List.mem_of_mem_head? hhead)
      exact absurd rfl (ne_of_isBlank hblank (by decide +kernel))

theorem States.argOfToken?_eq {arg : StatedArg} {token : Token} (h : States arg token)
    (harg : arg.IsProper) : argOfToken? token = some arg.value := by
  obtain ⟨hverbal, hbefore, hafter⟩ := h
  refine hverbal.argOfToken?_eq harg ?_
  rw [String.toList_ofList, trim_append hbefore hverbal.core_plain.2 hafter]

end PluginBuild.Metadata
