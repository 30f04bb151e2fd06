import Mathlib.Algebra.Ring.Nat
import Mathlib.Data.List.Basic
import PluginBuild.Metadata.AttributeBlob
import PluginBuild.Proofs.Text.Blank
import PluginBuild.Proofs.Text.Utf8
/-!
# Fields of an attribute blob

A blob has a field for each parameter, one behind the other, and `Field` says which bytes are a
field for which parameter and which argument they hold. An argument is taken exactly where a field
begins the bytes (`takeArg?_eq_some_iff`). What is written for arguments are such fields
(`FixedArg.field`), so they are read back, and where a field is missing the reading ends
(`argsOfBlob_fields`).
-/

namespace PluginBuild.Metadata

open Text

/-! ### Fields -/

/-- Bytes that state a length: their first bits tell how many they are. -/
inductive StatesLength : List UInt8 → Nat → Prop
  | one {a : UInt8} (h : a.toNat < 0x80) : StatesLength [a] a.toNat
  | two {a b : UInt8} (hleast : 0x80 ≤ a.toNat) (h : a.toNat < 0xC0) :
    StatesLength [a, b] ((a.toNat - 0x80) * 256 + b.toNat)
  | four {a b c d : UInt8} (h : 0xC0 ≤ a.toNat) :
    StatesLength [a, b, c, d]
      (a.toNat % 32 * 16777216 + b.toNat * 65536 + c.toNat * 256 + d.toNat)

/-- Bytes that hold a string, or the null string. -/
inductive HoldsString : List UInt8 → Option String → Prop
  | null : HoldsString [0xFF] none
  | text {length content : List UInt8} (hlength : StatesLength length content.length)
    (hfirst : length.head? ≠ some 0xFF) :
    HoldsString (length ++ content) (some (String.ofList (decodeLossy content)))

/-- The types of numbers, with the bytes that each takes. -/
def integerWidths : List (String × Nat) :=
  [("int8", 1), ("uint8", 1), ("int16", 2), ("uint16", 2), ("char", 2), ("int32", 4),
    ("uint32", 4), ("int64", 8), ("uint64", 8)]

/-- Bytes that hold an argument for a parameter of the given type. -/
inductive HoldsArg : String → List UInt8 → AttributeArg → Prop
  | string {bytes : List UInt8} {value : Option String} (h : HoldsString bytes value) :
    HoldsArg "string" bytes (.string value)
  | type {bytes : List UInt8} {name : String} (h : HoldsString bytes (some name)) :
    HoldsArg "System.Type" bytes (.type (typeNameOfBlob name))
  | nullType : HoldsArg "System.Type" [0xFF] (.other "null type")
  | boolean (b : UInt8) : HoldsArg "bool" [b] (.boolean (b != 0))
  | integer {param : String} {bytes : List UInt8} (h : (param, bytes.length) ∈ integerWidths) :
    HoldsArg param bytes (.integer (signedOf bytes.length (littleEndian bytes)))

/-- The bytes of an argument in a blob. -/
structure Field where
  /-- The type of the parameter. -/
  param : String
  bytes : List UInt8
  arg : AttributeArg
  holds : HoldsArg param bytes arg

/-! ### Taking a field -/

section

variable {param : String} {arg : AttributeArg} {bytes rest : List UInt8}

theorem takeBytes?_eq_some_iff {count : Nat} {taken : List UInt8} :
    takeBytes? count bytes = some (taken, rest) ↔
      taken.length = count ∧ bytes = taken ++ rest := by
  rw [takeBytes?]
  constructor
  · intro h
    split at h
    · next hle =>
      rw [Option.some.injEq, List.splitAt_eq, Prod.mk.injEq] at h
      obtain ⟨rfl, rfl⟩ := h
      exact ⟨List.length_take_of_le hle, (List.take_append_drop count bytes).symm⟩
    · cases h
  · rintro ⟨rfl, rfl⟩
    simp [List.splitAt_eq]

theorem takeLength?_eq_some_iff {n : Nat} :
    takeLength? bytes = some (n, rest) ↔
      ∃ length, StatesLength length n ∧ bytes = length ++ rest := by
  constructor
  · intro h
    cases bytes with
    | nil => cases h
    | cons a more =>
      unfold takeLength? at h
      dsimp only at h
      split at h
      · next hone =>
        cases h
        exact ⟨[a], .one hone, rfl⟩
      split at h
      · next hone htwo =>
        cases more with
        | nil => cases h
        | cons b more =>
          cases h
          exact ⟨[a, b], .two (Nat.le_of_not_lt hone) htwo, rfl⟩
      · next htwo =>
        split at h
        · next b c d more =>
          cases h
          exact ⟨[a, b, c, d], .four (Nat.le_of_not_lt htwo), rfl⟩
        · cases h
  · rintro ⟨length, hlength, rfl⟩
    cases hlength with
    | one h => exact if_pos h
    | two hleast h => exact (if_neg (Nat.not_lt_of_le hleast)).trans (if_pos h)
    | four h => exact (if_neg (by omega)).trans (if_neg (by omega))

theorem StatesLength.ne_nil {length : List UInt8} {n : Nat} (h : StatesLength length n) :
    length ≠ [] := by
  cases h <;> simp

theorem takeString?_eq_some_iff {value : Option String} :
    takeString? bytes = some (value, rest) ↔
      ∃ field, HoldsString field value ∧ bytes = field ++ rest := by
  constructor
  · intro h
    cases bytes with
    | nil => cases h
    | cons first more =>
      rw [takeString?] at h
      split at h
      · next hnull =>
        cases h
        exact ⟨[first], hnull ▸ .null, rfl⟩
      · next hnull =>
        obtain ⟨⟨n, content⟩, hlength, h⟩ := Option.bind_eq_some_iff.1 h
        obtain ⟨⟨text, more'⟩, htext, h⟩ := Option.bind_eq_some_iff.1 h
        cases h
        obtain ⟨length, hstates, hbytes⟩ := takeLength?_eq_some_iff.1 hlength
        obtain ⟨rfl, rfl⟩ := takeBytes?_eq_some_iff.1 htext
        have hfirst : length.head? ≠ some 0xFF := by
          obtain ⟨b, length, rfl⟩ := List.exists_cons_of_ne_nil hstates.ne_nil
          rw [List.head?_cons, ← (List.cons.inj hbytes).1]
          exact fun heq => hnull (Option.some.inj heq)
        exact ⟨length ++ text, .text hstates hfirst, by rw [hbytes, List.append_assoc]⟩
  · rintro ⟨field, hfield, rfl⟩
    cases hfield with
    | null => rfl
    | @text length content hlength hfirst =>
      have htake : takeLength? (length ++ (content ++ rest)) =
          some (content.length, content ++ rest) :=
        takeLength?_eq_some_iff.2 ⟨length, hlength, rfl⟩
      have htext : takeBytes? content.length (content ++ rest) = some (content, rest) :=
        takeBytes?_eq_some_iff.2 ⟨rfl, rfl⟩
      obtain ⟨b, length, rfl⟩ := List.exists_cons_of_ne_nil hlength.ne_nil
      rw [List.head?_cons, ne_eq, Option.some_inj] at hfirst
      rw [List.append_assoc, List.cons_append, takeString?, if_neg hfirst, ← List.cons_append,
        htake, Option.bind_eq_bind, Option.bind_some]
      dsimp only
      rw [htext, Option.bind_eq_bind, Option.bind_some]
      rfl

theorem takeInteger?_eq_some_iff {width : Nat} {value : Int} :
    takeInteger? width bytes = some (value, rest) ↔
      ∃ field, field.length = width ∧ value = signedOf width (littleEndian field) ∧
        bytes = field ++ rest := by
  rw [takeInteger?, Option.map_eq_some_iff]
  constructor
  · rintro ⟨⟨field, more⟩, hfield, h⟩
    cases h
    obtain ⟨hlength, rfl⟩ := takeBytes?_eq_some_iff.1 hfield
    exact ⟨field, hlength, rfl, rfl⟩
  · rintro ⟨field, hlength, rfl, rfl⟩
    exact ⟨(field, rest), takeBytes?_eq_some_iff.2 ⟨hlength, rfl⟩, rfl⟩

theorem takeArg?_integer {width : Nat} (h : (param, width) ∈ integerWidths) :
    takeArg? param bytes = (takeInteger? width bytes).map fun r => (.integer r.1, r.2) := by
  simp only [integerWidths, List.mem_cons, List.not_mem_nil, or_false, Prod.mk.injEq] at h
  rcases h with h | h | h | h | h | h | h | h | h <;> (obtain ⟨rfl, rfl⟩ := h; rfl)

theorem exists_integer {width : Nat}
    (htake : (takeInteger? width bytes).map (fun r => (AttributeArg.integer r.1, r.2)) =
      some (arg, rest)) (h : (param, width) ∈ integerWidths) :
    ∃ field, HoldsArg param field arg ∧ bytes = field ++ rest := by
  obtain ⟨⟨value, more⟩, hvalue, heq⟩ := Option.map_eq_some_iff.1 htake
  cases heq
  obtain ⟨field, rfl, rfl, rfl⟩ := takeInteger?_eq_some_iff.1 hvalue
  exact ⟨field, .integer h, rfl⟩

theorem takeArg?_string :
    takeArg? "string" bytes = (takeString? bytes).map fun r => (.string r.1, r.2) := rfl

theorem takeArg?_type :
    takeArg? "System.Type" bytes = (takeString? bytes).map fun r =>
      (match r.1 with
        | some name => .type (typeNameOfBlob name)
        | none => .other "null type", r.2) := rfl

theorem takeArg?_boolean (b : UInt8) :
    takeArg? "bool" (b :: rest) = some (.boolean (b != 0), rest) := by
  have hzero : ([b] != [0]) = (b != 0) := Bool.eq_iff_iff.2 (by simp)
  have htake : takeBytes? 1 (b :: rest) = some ([b], rest) :=
    takeBytes?_eq_some_iff.2 ⟨rfl, rfl⟩
  rw [show takeArg? "bool" (b :: rest) = (takeBytes? 1 (b :: rest)).map fun r =>
      (.boolean (r.1 != [0]), r.2) from rfl, htake, Option.map_some, hzero]

/-- An argument is taken exactly where a field for the parameter begins the bytes. -/
theorem takeArg?_eq_some_iff :
    takeArg? param bytes = some (arg, rest) ↔
      ∃ field, HoldsArg param field arg ∧ bytes = field ++ rest := by
  constructor
  · intro h
    unfold takeArg? at h
    dsimp only at h
    split at h
    case h_1 =>
      obtain ⟨⟨value, more⟩, hvalue, heq⟩ := Option.map_eq_some_iff.1 h
      cases heq
      obtain ⟨field, hfield, rfl⟩ := takeString?_eq_some_iff.1 hvalue
      exact ⟨field, .string hfield, rfl⟩
    case h_2 =>
      obtain ⟨⟨value, more⟩, hvalue, heq⟩ := Option.map_eq_some_iff.1 h
      cases heq
      obtain ⟨field, hfield, rfl⟩ := takeString?_eq_some_iff.1 hvalue
      cases value with
      | some name => exact ⟨field, .type hfield, rfl⟩
      | none =>
        cases hfield
        exact ⟨[0xFF], .nullType, rfl⟩
    case h_3 =>
      obtain ⟨⟨field, more⟩, hfield, -⟩ := Option.map_eq_some_iff.1 h
      obtain ⟨hlength, rfl⟩ := takeBytes?_eq_some_iff.1 hfield
      obtain ⟨b, rfl⟩ := List.length_eq_one_iff.1 hlength
      have hboolean : some (arg, rest) = some (.boolean (b != 0), more) :=
        h.symm.trans (takeArg?_boolean b)
      cases hboolean
      exact ⟨[b], .boolean b, rfl⟩
    case h_13 => cases h
    -- The types that are left are those of numbers.
    all_goals exact exists_integer h (by decide)
  · rintro ⟨field, hfield, rfl⟩
    cases hfield with
    | @string _ value h =>
      have htake : takeString? (field ++ rest) = some (value, rest) :=
        takeString?_eq_some_iff.2 ⟨field, h, rfl⟩
      rw [takeArg?_string, htake, Option.map_some]
    | @type _ name h =>
      have htake : takeString? (field ++ rest) = some (some name, rest) :=
        takeString?_eq_some_iff.2 ⟨field, h, rfl⟩
      rw [takeArg?_type, htake, Option.map_some]
    | nullType => rfl
    | boolean b => exact takeArg?_boolean b
    | integer h =>
      rw [takeArg?_integer h, takeInteger?_eq_some_iff.2 ⟨field, rfl, rfl, rfl⟩]
      rfl

end

/-! ### Arguments as they are written -/

/-- A length in one, two or four bytes. -/
def lengthBytes (n : Nat) : List UInt8 :=
  if n < 0x80 then [UInt8.ofNat n]
  else if n < 0x4000 then [UInt8.ofNat (0x80 + n / 256), UInt8.ofNat (n % 256)]
  else
    [UInt8.ofNat (0xC0 + n / 16777216), UInt8.ofNat (n / 65536 % 256),
      UInt8.ofNat (n / 256 % 256), UInt8.ofNat (n % 256)]

/-- The lengths that there are bytes for. -/
def lengthBound : Nat := 0x20000000

/-- A text behind the length of its bytes. -/
def textBytes (s : List Char) : List UInt8 := lengthBytes (encode s).length ++ encode s

/-- The lowest bytes of a number, the least significant one first. -/
def numberBytes : Nat → Nat → List UInt8
  | 0, _ => []
  | width + 1, n => UInt8.ofNat (n % 256) :: numberBytes width (n / 256)

/-- An argument that a blob can hold. -/
inductive FixedArg
  | string (text : List Char)
  | nullString
  /-- A type by its name behind those of the types it stands in, and what follows of its
  assembly. -/
  | type (names : List (List Char)) (assembly : List Char)
  | boolean (value : Bool)
  /-- A number with a sign, of the given number of bytes. -/
  | integer (width : Nat) (value : Int)

namespace FixedArg

/-- What an argument is written for: a string or type that is not too long, a type by names that
have no blanks around them, and a number in the range of its width. -/
def IsProper : FixedArg → Prop
  | string text => (encode text).length < lengthBound
  | nullString => True
  | type names assembly =>
    names ≠ [] ∧ (∀ name ∈ names, name ≠ [] ∧ ',' ∉ name ∧ '+' ∉ name ∧ Unpadded name) ∧
      (∀ c ∈ assembly.head?, c = ',') ∧
      (encode (List.intercalate ['+'] names ++ assembly)).length < lengthBound
  | boolean _ => True
  | integer width value =>
    width ∈ [1, 2, 4, 8] ∧ -(2 ^ (8 * width - 1) : Nat) ≤ value ∧
      value < (2 ^ (8 * width - 1) : Nat)

instance : DecidablePred IsProper
  | string _ => inferInstanceAs (Decidable (_ < _))
  | nullString => inferInstanceAs (Decidable True)
  | type _ _ => inferInstanceAs (Decidable (_ ∧ _))
  | boolean _ => inferInstanceAs (Decidable True)
  | integer _ _ => inferInstanceAs (Decidable (_ ∧ _))

/-- The type of the parameter that an argument is for. -/
def param : FixedArg → String
  | string _ => "string"
  | nullString => "string"
  | type _ _ => "System.Type"
  | boolean _ => "bool"
  | integer width _ =>
    if width = 1 then "int8" else if width = 2 then "int16" else if width = 4 then "int32"
    else "int64"

/-- The bytes that are written for an argument. -/
def bytes : FixedArg → List UInt8
  | string text => textBytes text
  | nullString => [0xFF]
  | type names assembly => textBytes (List.intercalate ['+'] names ++ assembly)
  | boolean value => [if value then 1 else 0]
  | integer width value => numberBytes width (value % (2 ^ (8 * width) : Nat)).toNat

/-- The argument itself. Between the names of a type stand slashes. -/
def value : FixedArg → AttributeArg
  | string text => .string (some (String.ofList text))
  | nullString => .string none
  | type names _ => .type (String.ofList (List.intercalate ['/'] names))
  | boolean value => .boolean value
  | integer _ value => .integer value

end FixedArg

theorem statesLength_lengthBytes {n : Nat} (h : n < lengthBound) :
    StatesLength (lengthBytes n) n := by
  have hbound : n < 0x20000000 := h
  rw [lengthBytes]
  split
  · next hone =>
    have ha := toNat_byte (n := n) (by omega)
    have hstates := StatesLength.one (a := UInt8.ofNat n) (by omega)
    rwa [ha] at hstates
  split
  · next hone htwo =>
    have ha := toNat_byte (n := 0x80 + n / 256) (by omega)
    have hb := toNat_byte (n := n % 256) (by omega)
    have hstates := StatesLength.two (a := UInt8.ofNat (0x80 + n / 256))
      (b := UInt8.ofNat (n % 256)) (by omega) (by omega)
    rwa [ha, hb, show (0x80 + n / 256 - 0x80) * 256 + n % 256 = n by omega] at hstates
  · next hone htwo =>
    have ha := toNat_byte (n := 0xC0 + n / 16777216) (by omega)
    have hb := toNat_byte (n := n / 65536 % 256) (by omega)
    have hc := toNat_byte (n := n / 256 % 256) (by omega)
    have hd := toNat_byte (n := n % 256) (by omega)
    have hstates := StatesLength.four (a := UInt8.ofNat (0xC0 + n / 16777216))
      (b := UInt8.ofNat (n / 65536 % 256)) (c := UInt8.ofNat (n / 256 % 256))
      (d := UInt8.ofNat (n % 256)) (by omega)
    rwa [ha, hb, hc, hd, show (0xC0 + n / 16777216) % 32 * 16777216 + n / 65536 % 256 * 65536 +
      n / 256 % 256 * 256 + n % 256 = n by omega] at hstates

/-- The first byte of a length is never the one that stands for the null string. -/
theorem head?_lengthBytes {n : Nat} (h : n < lengthBound) :
    (lengthBytes n).head? ≠ some 0xFF := by
  have hbound : n < 0x20000000 := h
  have hne {m : Nat} (hm : m < 0xFF) : some (UInt8.ofNat m) ≠ some 0xFF := by
    intro heq
    have htoNat := congrArg UInt8.toNat (Option.some.inj heq)
    rw [toNat_byte (by omega)] at htoNat
    exact absurd htoNat (Nat.ne_of_lt hm)
  rw [lengthBytes]
  split
  · exact hne (by omega)
  split
  · exact hne (by omega)
  · exact hne (by omega)

theorem holdsString_textBytes {s : List Char} (h : (encode s).length < lengthBound) :
    HoldsString (textBytes s) (some (String.ofList s)) := by
  have hholds := HoldsString.text (statesLength_lengthBytes h) (head?_lengthBytes h)
  rwa [decodeLossy_encode] at hholds

theorem length_numberBytes (width n : Nat) : (numberBytes width n).length = width := by
  induction width generalizing n with
  | zero => rfl
  | succ width ih => rw [numberBytes, List.length_cons, ih]

theorem littleEndian_numberBytes (width n : Nat) :
    littleEndian (numberBytes width n) = n % 256 ^ width := by
  induction width generalizing n with
  | zero => rw [numberBytes, littleEndian, Nat.pow_zero, Nat.mod_one]
  | succ width ih =>
    rw [numberBytes, littleEndian, toNat_byte (Nat.mod_lt n (by decide)), ih, Nat.pow_succ',
      Nat.mod_mul]

/-- A number in the range of its width is the one that its bytes stand for. -/
theorem signedOf_emod {width : Nat} {value : Int} (hwidth : 0 < width)
    (hleast : -(2 ^ (8 * width - 1) : Nat) ≤ value) (h : value < (2 ^ (8 * width - 1) : Nat)) :
    signedOf width (value % (2 ^ (8 * width) : Nat)).toNat = value := by
  have hdouble : 2 ^ (8 * width) = 2 * 2 ^ (8 * width - 1) :=
    (Nat.pow_pred_mul (by omega)).symm.trans (Nat.mul_comm _ 2)
  have hpow (n : Nat) : Nat.pow 2 n = 2 ^ n := rfl
  rw [signedOf, hpow, hpow, Int.subNatNat_eq_coe, hdouble]
  generalize 2 ^ (8 * width - 1) = half at hleast h
  -- A negative number is written as its sum with twice the half.
  by_cases hsign : 0 ≤ value
  · rw [Int.emod_eq_of_lt hsign (by omega), if_pos (by omega), Int.toNat_of_nonneg hsign]
  · have hmod : value % (2 * half : Nat) = value + (2 * half : Nat) := by
      rw [← Int.add_emod_right, Int.emod_eq_of_lt (by omega) (by omega)]
    rw [hmod, if_neg (by omega), Int.toNat_of_nonneg (by omega)]
    omega

/-! ### Names of types -/

theorem mem_intercalate {separator c : Char} {names : List (List Char)}
    (h : c ∈ List.intercalate [separator] names) : c = separator ∨ ∃ name ∈ names, c ∈ name := by
  induction names with
  | nil => cases h
  | cons first others ih =>
    cases others with
    | nil => exact .inr ⟨first, by simp, by rwa [List.intercalate_singleton] at h⟩
    | cons second others =>
      rw [List.intercalate_cons_cons, List.append_assoc, List.mem_append, List.singleton_append,
        List.mem_cons] at h
      rcases h with h | h | h
      · exact .inr ⟨first, by simp, h⟩
      · exact .inl h
      · rcases ih h with h | ⟨name, hname, h⟩
        · exact .inl h
        · exact .inr ⟨name, List.mem_cons_of_mem first hname, h⟩

theorem unpadded_intercalate {separator : Char} {names : List (List Char)} (hne : names ≠ [])
    (h : ∀ name ∈ names, name ≠ [] ∧ Unpadded name) :
    List.intercalate [separator] names ≠ [] ∧
      Unpadded (List.intercalate [separator] names) := by
  induction names with
  | nil => exact absurd rfl hne
  | cons first others ih =>
    obtain ⟨⟨hfirst, hunpadded⟩, hothers⟩ := List.forall_mem_cons.1 h
    cases others with
    | nil => rw [List.intercalate_singleton]; exact ⟨hfirst, hunpadded⟩
    | cons second others =>
      obtain ⟨hrest, -, hlast⟩ := ih (by simp) hothers
      obtain ⟨c, first, rfl⟩ := List.exists_cons_of_ne_nil hfirst
      rw [List.intercalate_cons_cons]
      refine ⟨by simp, hunpadded.1, ?_⟩
      rwa [List.getLast?_append_of_ne_nil _ hrest]

theorem replaceChar_of_notMem {a b : Char} {s : List Char} (h : a ∉ s) : replaceChar a b s = s := by
  refine (List.map_congr_left fun c hc => ?_).trans (List.map_id s)
  exact if_neg fun (heq : c = a) => h (heq ▸ hc)

theorem replaceChar_intercalate {a b : Char} {names : List (List Char)}
    (h : ∀ name ∈ names, a ∉ name) :
    replaceChar a b (List.intercalate [a] names) = List.intercalate [b] names := by
  induction names with
  | nil => rfl
  | cons first others ih =>
    obtain ⟨hfirst, hothers⟩ := List.forall_mem_cons.1 h
    cases others with
    | nil =>
      rw [List.intercalate_singleton, List.intercalate_singleton, replaceChar_of_notMem hfirst]
    | cons second others =>
      have hseparator : replaceChar a b [a] = [b] := by simp [replaceChar]
      rw [List.intercalate_cons_cons, List.intercalate_cons_cons, replaceChar, List.map_append,
        List.map_append]
      exact congrArg₂ (· ++ ·) (congrArg₂ (· ++ ·) (replaceChar_of_notMem hfirst) hseparator)
        (ih hothers)

/-- The name of a type is what stands before its assembly, with slashes between the names. -/
theorem typeNameOfBlob_names {names : List (List Char)} {assembly : List Char}
    (hproper : (FixedArg.type names assembly).IsProper) :
    typeNameOfBlob (String.ofList (List.intercalate ['+'] names ++ assembly)) =
      String.ofList (List.intercalate ['/'] names) := by
  obtain ⟨hne, hnames, hassembly, -⟩ := hproper
  have hcomma : ∀ c ∈ List.intercalate ['+'] names, c ≠ ',' := by
    rintro c hc rfl
    rcases mem_intercalate hc with h | ⟨name, hname, h⟩
    · cases h
    · exact (hnames name hname).2.1 h
  have hcut : (List.intercalate ['+'] names ++ assembly).takeWhile (· ≠ ',') =
      List.intercalate ['+'] names := by
    rw [List.takeWhile_append_of_pos (by simpa using hcomma)]
    cases assembly with
    | nil => rw [List.takeWhile_nil, List.append_nil]
    | cons c assembly => simp [hassembly c rfl]
  have hunpadded : Unpadded (List.intercalate ['+'] names) :=
    (unpadded_intercalate hne fun name hname =>
      ⟨(hnames name hname).1, (hnames name hname).2.2.2⟩).2
  rw [typeNameOfBlob, String.toList_ofList, hcut, trim_eq_self hunpadded,
    replaceChar_intercalate fun name hname => (hnames name hname).2.2.1]

/-! ### Reading a blob -/

theorem FixedArg.param_mem {width : Nat} {value : Int} (h : width ∈ [1, 2, 4, 8]) :
    ((integer width value).param, width) ∈ integerWidths := by
  simp only [List.mem_cons, List.not_mem_nil, or_false] at h
  rcases h with rfl | rfl | rfl | rfl <;> simp [FixedArg.param, integerWidths]

theorem holdsArg_integer {width : Nat} {value : Int}
    (h : (FixedArg.integer width value).IsProper) :
    HoldsArg (FixedArg.integer width value).param (FixedArg.integer width value).bytes
      (.integer value) := by
  obtain ⟨hwidth, hleast, hmost⟩ := h
  have hpos : 0 < width := by
    rcases List.mem_cons.1 hwidth with rfl | hwidth
    · decide
    · simp only [List.mem_cons, List.not_mem_nil, or_false] at hwidth
      omega
  have hbound : (0 : Int) < (2 ^ (8 * width) : Nat) :=
    Int.natCast_pos.2 (Nat.two_pow_pos (8 * width))
  have hnonneg : 0 ≤ value % (2 ^ (8 * width) : Nat) :=
    Int.emod_nonneg value (Int.ne_of_gt hbound)
  have hlt : (value % (2 ^ (8 * width) : Nat)).toNat < 256 ^ width := by
    rw [show 256 ^ width = 2 ^ (8 * width) from (Nat.pow_mul 2 8 width).symm, Int.toNat_lt hnonneg]
    exact Int.emod_lt_of_pos value hbound
  have hmem : ((FixedArg.integer width value).param,
      (FixedArg.integer width value).bytes.length) ∈ integerWidths := by
    rw [FixedArg.bytes, length_numberBytes]
    exact FixedArg.param_mem hwidth
  have hholds := HoldsArg.integer hmem
  rwa [FixedArg.bytes, length_numberBytes, littleEndian_numberBytes, Nat.mod_eq_of_lt hlt,
    signedOf_emod hpos hleast hmost] at hholds

def FixedArg.field (arg : FixedArg) (h : arg.IsProper) : Field where
  param := arg.param
  bytes := arg.bytes
  arg := arg.value
  holds := by
    cases arg with
    | string text => exact .string (holdsString_textBytes h)
    | nullString => exact .string .null
    | type names assembly =>
      rw [value, ← typeNameOfBlob_names h]
      exact .type (holdsString_textBytes h.2.2.2)
    | boolean value =>
      cases value with
      | false => exact .boolean 0
      | true => exact .boolean 1
    | integer width value => exact holdsArg_integer h

theorem argsFrom_append (fields : List Field) (bytes : List UInt8) (params : List String) :
    argsFrom (fields.flatMap Field.bytes ++ bytes) (fields.map Field.param ++ params) =
      fields.map Field.arg ++ argsFrom bytes params := by
  induction fields with
  | nil => rfl
  | cons field fields ih =>
    have htake : takeArg? field.param
        (field.bytes ++ (fields.flatMap Field.bytes ++ bytes)) =
          some (field.arg, fields.flatMap Field.bytes ++ bytes) :=
      takeArg?_eq_some_iff.2 ⟨field.bytes, field.holds, rfl⟩
    rw [List.flatMap_cons, List.append_assoc, List.map_cons, List.cons_append, argsFrom, htake]
    exact congrArg (field.arg :: ·) ih

/-- No field for the first of the parameters begins the bytes. -/
def NoField (bytes : List UInt8) (params : List String) : Prop :=
  ∀ param ∈ params.head?, ∀ field : Field, field.param = param → ¬field.bytes <+: bytes

theorem argsFrom_of_noField {bytes : List UInt8} {params : List String}
    (h : NoField bytes params) : argsFrom bytes params = params.map .other := by
  cases params with
  | nil => rfl
  | cons param params =>
    rw [argsFrom]
    cases htake : takeArg? param bytes with
    | none => rfl
    | some taken =>
      obtain ⟨field, hfield, rfl⟩ := takeArg?_eq_some_iff.1 htake
      exact absurd (List.prefix_append field taken.2)
        (h param rfl ⟨param, field, taken.1, hfield⟩ rfl)

theorem exists_fields (bytes : List UInt8) (params : List String) :
    ∃ fields : List Field, ∃ rest others, params = fields.map Field.param ++ others ∧
      bytes = fields.flatMap Field.bytes ++ rest ∧ NoField rest others := by
  induction params generalizing bytes with
  | nil => exact ⟨[], bytes, [], rfl, rfl, nofun⟩
  | cons param params ih =>
    by_cases hfield : ∃ field : Field, field.param = param ∧ field.bytes <+: bytes
    · obtain ⟨field, rfl, more, rfl⟩ := hfield
      obtain ⟨fields, rest, others, rfl, rfl, hnone⟩ := ih more
      exact ⟨field :: fields, rest, others, rfl, by rw [List.flatMap_cons, List.append_assoc],
        hnone⟩
    · refine ⟨[], bytes, param :: params, rfl, rfl, ?_⟩
      intro first hfirst field hparam hbytes
      cases hfirst
      exact hfield ⟨field, hparam, hbytes⟩

theorem exists_fields_of_isProper {args : List FixedArg} (h : ∀ arg ∈ args, arg.IsProper) :
    ∃ fields : List Field, fields.flatMap Field.bytes = args.flatMap FixedArg.bytes ∧
      fields.map Field.param = args.map FixedArg.param ∧
      fields.map Field.arg = args.map FixedArg.value := by
  induction args with
  | nil => exact ⟨[], rfl, rfl, rfl⟩
  | cons arg args ih =>
    obtain ⟨harg, hargs⟩ := List.forall_mem_cons.1 h
    obtain ⟨fields, hbytes, hparams, hvalues⟩ := ih hargs
    refine ⟨arg.field harg :: fields, ?_, ?_, ?_⟩
    · exact congrArg (arg.bytes ++ ·) hbytes
    · exact congrArg (arg.param :: ·) hparams
    · exact congrArg (arg.value :: ·) hvalues

theorem argsOfBlob_eq_other {blob : List UInt8} (h : ¬[0x01, 0x00] <+: blob)
    (params : List String) : argsOfBlob blob params = params.map .other := by
  rw [argsOfBlob]
  rintro bytes rfl
  exact h ⟨bytes, rfl⟩

/-- A blob is read as far as it has fields. -/
theorem exists_fields_of_blob (blob : List UInt8) (params : List String) :
    ∃ fields : List Field, ∃ others, params = fields.map Field.param ++ others ∧
      argsOfBlob blob params = fields.map Field.arg ++ others.map .other ∧
      ((∃ more, blob = 0x01 :: 0x00 :: (fields.flatMap Field.bytes ++ more) ∧
          NoField more others) ∨
        fields = [] ∧ ¬[0x01, 0x00] <+: blob) := by
  by_cases hstart : [0x01, 0x00] <+: blob
  · obtain ⟨bytes, rfl⟩ := hstart
    obtain ⟨fields, more, others, rfl, rfl, hnone⟩ := exists_fields bytes params
    refine ⟨fields, others, rfl, ?_, .inl ⟨more, rfl, hnone⟩⟩
    rw [← argsFrom_of_noField hnone, ← argsFrom_append]
    rfl
  · exact ⟨[], params, rfl, argsOfBlob_eq_other hstart params, .inr ⟨rfl, hstart⟩⟩

/-- Arguments are read back from what is written for them, whatever follows. Any blob gives one
argument for each parameter: those that its fields hold, as long as there is a field for each
parameter, and then only texts of parameter types. A blob that does not begin with 01 00 has no
fields. -/
theorem argsOfBlob_fields {args : List FixedArg} (h : ∀ arg ∈ args, arg.IsProper)
    (rest blob : List UInt8) (params : List String) :
    argsOfBlob (0x01 :: 0x00 :: (args.flatMap FixedArg.bytes ++ rest))
        (args.map FixedArg.param) = args.map FixedArg.value ∧
      (argsOfBlob blob params).length = params.length ∧
      ∃ fields : List Field, ∃ others, params = fields.map Field.param ++ others ∧
        argsOfBlob blob params = fields.map Field.arg ++ others.map .other ∧
        ((∃ more, blob = 0x01 :: 0x00 :: (fields.flatMap Field.bytes ++ more) ∧
            NoField more others) ∨
          fields = [] ∧ ¬[0x01, 0x00] <+: blob) := by
  obtain ⟨fields, others, hparams, hargs, hblob⟩ := exists_fields_of_blob blob params
  refine ⟨?_, ?_, fields, others, hparams, hargs, hblob⟩
  · obtain ⟨written, hbytes, hwritten, hvalues⟩ := exists_fields_of_isProper h
    have happend := argsFrom_append written rest []
    rwa [List.append_nil, hbytes, hwritten, hvalues, argsFrom, List.append_nil] at happend
  · rw [hargs, hparams, List.length_append, List.length_append, List.length_map, List.length_map,
      List.length_map]

/-- A string, a type in another one with its assembly, the null string, a number and a truth
value. -/
def sampleArgs : List FixedArg :=
  [.string "Größe".toList, .type ["Sample.Fs".toList, "Entry".toList] ", Sample".toList,
    .nullString, .integer 2 (-2), .boolean true]

/-- The sample is read back before a byte that belongs to none of it, and a blob that ends inside
its first string gives the types of its parameters. -/
theorem argsOfBlob_fields_sampleArgs :
    (∀ arg ∈ sampleArgs, arg.IsProper) ∧
      sampleArgs.map FixedArg.param = ["string", "System.Type", "string", "int16", "bool"] ∧
      argsOfBlob (0x01 :: 0x00 :: (sampleArgs.flatMap FixedArg.bytes ++ [0x2A]))
          (sampleArgs.map FixedArg.param) =
        [.string (some "Größe"), .type "Sample.Fs/Entry", .string none, .integer (-2),
          .boolean true] ∧
      (argsOfBlob [0x01, 0x00, 0x05, 0x61] ["string", "System.Type"]).length = 2 := by
  have hproper : ∀ arg ∈ sampleArgs, arg.IsProper := by decide +kernel
  have hfields := argsOfBlob_fields hproper [0x2A] [0x01, 0x00, 0x05, 0x61]
    ["string", "System.Type"]
  have hvalues : sampleArgs.map FixedArg.value =
      [.string (some "Größe"), .type "Sample.Fs/Entry", .string none, .integer (-2),
        .boolean true] := by
    decide +kernel
  exact ⟨hproper, by decide +kernel, hvalues ▸ hfields.1, hfields.2.1⟩

end PluginBuild.Metadata
