import PluginBuild.Text.Utf8
/-!
# Characters read back

The bytes of a character are read as that character, whatever follows them
(`decodeFrom_encodeChar`), so that the bytes of a text are read as that text
(`decodeLossy_encode`).
-/

namespace PluginBuild.Text

theorem toNat_byte {n : Nat} (h : n < 256) : (UInt8.ofNat n).toNat = n := by
  rw [UInt8.toNat_ofNat', Nat.mod_eq_of_lt h]

/-! ### One byte -/

section

variable {p : PartialChar} {b : UInt8} (rest : List UInt8)

theorem decodeFrom_first (h : firstByte b.toNat = .more p) :
    decodeFrom none (b :: rest) = decodeFrom (some p) rest := by
  rw [decodeFrom]
  simp only [h]

variable (hleast : p.least ≤ b.toNat) (hgreatest : b.toNat ≤ p.greatest)
include hleast hgreatest

/-- A byte that others of its character follow. -/
theorem decodeFrom_next {owed : Nat} (howed : p.owed = owed + 1) :
    decodeFrom (some p) (b :: rest) =
      decodeFrom (some ⟨p.value * 64 + (b.toNat - 0x80), owed, 0x80, 0xBF⟩) rest := by
  rw [decodeFrom]
  simp only [hleast, hgreatest, and_self, if_true, howed]

theorem decodeFrom_last {c : Char} (howed : p.owed = 0)
    (hvalue : p.value * 64 + (b.toNat - 0x80) = c.toNat) :
    decodeFrom (some p) (b :: rest) = some c :: decodeFrom none rest := by
  rw [decodeFrom]
  simp only [hleast, hgreatest, and_self, if_true, howed, hvalue, Char.ofNat_toNat]

end

/-! ### The bytes of a character -/

section

variable {c : Char} (rest : List UInt8)

theorem decodeFrom_one (h : c.toNat < 0x80) :
    decodeFrom none (UInt8.ofNat c.toNat :: rest) = some c :: decodeFrom none rest := by
  have hbyte : (UInt8.ofNat c.toNat).toNat = c.toNat := toNat_byte (by omega)
  rw [decodeFrom]
  simp only [hbyte, firstByte, if_pos h, Char.ofNat_toNat]

theorem decodeFrom_two (hleast : 0x80 ≤ c.toNat) (h : c.toNat < 0x800) :
    decodeFrom none (UInt8.ofNat (0xC0 + c.toNat / 64) ::
        UInt8.ofNat (0x80 + c.toNat % 64) :: rest) = some c :: decodeFrom none rest := by
  have hfirst := toNat_byte (n := 0xC0 + c.toNat / 64) (by omega)
  have hsecond := toNat_byte (n := 0x80 + c.toNat % 64) (by omega)
  have hmore : firstByte (0xC0 + c.toNat / 64) = .more ⟨c.toNat / 64, 0, 0x80, 0xBF⟩ := by
    rw [firstByte, if_neg (by omega), if_neg (by omega), if_pos (by omega), Nat.add_sub_cancel_left]
  rw [decodeFrom_first _ (hfirst.symm ▸ hmore), decodeFrom_last _ _ _ rfl]
  · simp only [hsecond]; omega
  · simp only [hsecond]; omega
  · simp only [hsecond]; omega

/-- The first of three bytes, which bounds the second one so that no character has two writings and
none is a surrogate. -/
theorem firstByte_three (hleast : 0x800 ≤ c.toNat) (h : c.toNat < 0x10000) :
    ∃ least greatest, firstByte (0xE0 + c.toNat / 4096) =
        .more ⟨c.toNat / 4096, 1, least, greatest⟩ ∧
      least ≤ 0x80 + c.toNat / 64 % 64 ∧ 0x80 + c.toNat / 64 % 64 ≤ greatest := by
  have hvalid : c.toNat < 0xD800 ∨ 0xDFFF < c.toNat ∧ c.toNat < 0x110000 := c.valid
  have hlead : ¬ 0xE0 + c.toNat / 4096 < 0xE0 := by omega
  rw [firstByte, if_neg (by omega), if_neg (by omega), if_neg hlead]
  -- Behind E0 the second byte is at least A0, and behind ED at most 9F.
  by_cases hzero : c.toNat / 4096 = 0
  · refine ⟨0xA0, 0xBF, ?_, by omega, by omega⟩
    rw [hzero, if_pos rfl]
  by_cases hsurrogate : c.toNat / 4096 = 0xD
  · refine ⟨0x80, 0x9F, ?_, by omega, by omega⟩
    rw [hsurrogate, if_neg (by decide), if_pos rfl]
  · refine ⟨0x80, 0xBF, ?_, by omega, by omega⟩
    rw [if_neg (by omega), if_neg (by omega), if_pos (by omega), Nat.add_sub_cancel_left]

theorem decodeFrom_three (hleast : 0x800 ≤ c.toNat) (h : c.toNat < 0x10000) :
    decodeFrom none (UInt8.ofNat (0xE0 + c.toNat / 4096) ::
        UInt8.ofNat (0x80 + c.toNat / 64 % 64) :: UInt8.ofNat (0x80 + c.toNat % 64) :: rest) =
      some c :: decodeFrom none rest := by
  have hfirst := toNat_byte (n := 0xE0 + c.toNat / 4096) (by omega)
  have hsecond := toNat_byte (n := 0x80 + c.toNat / 64 % 64) (by omega)
  have hthird := toNat_byte (n := 0x80 + c.toNat % 64) (by omega)
  obtain ⟨least, greatest, hmore, hmin, hmax⟩ := firstByte_three hleast h
  rw [decodeFrom_first _ (hfirst.symm ▸ hmore), decodeFrom_next _ (hsecond.symm ▸ hmin :)
    (hsecond.symm ▸ hmax :) rfl, decodeFrom_last _ _ _ rfl]
  · simp only [hsecond, hthird]; omega
  · simp only [hthird]; omega
  · simp only [hthird]; omega

/-- The first of four bytes, which bounds the second one to the characters there are. -/
theorem firstByte_four (h : 0x10000 ≤ c.toNat) :
    ∃ least greatest, firstByte (0xF0 + c.toNat / 262144) =
        .more ⟨c.toNat / 262144, 2, least, greatest⟩ ∧
      least ≤ 0x80 + c.toNat / 4096 % 64 ∧ 0x80 + c.toNat / 4096 % 64 ≤ greatest := by
  have hvalid : c.toNat < 0xD800 ∨ 0xDFFF < c.toNat ∧ c.toNat < 0x110000 := c.valid
  have hlead : ¬ 0xF0 + c.toNat / 262144 < 0xF0 := by omega
  rw [firstByte, if_neg (by omega), if_neg (by omega), if_neg (by omega), if_neg (by omega),
    if_neg (by omega), if_neg hlead]
  -- Behind F0 the second byte is at least 90, and behind F4 at most 8F.
  by_cases hzero : c.toNat / 262144 = 0
  · refine ⟨0x90, 0xBF, ?_, by omega, by omega⟩
    rw [hzero, if_pos rfl]
  by_cases hlast : c.toNat / 262144 = 4
  · refine ⟨0x80, 0x8F, ?_, by omega, by omega⟩
    rw [hlast, if_neg (by decide), if_neg (by decide), if_pos rfl]
  · refine ⟨0x80, 0xBF, ?_, by omega, by omega⟩
    rw [if_neg (by omega), if_pos (by omega), Nat.add_sub_cancel_left]

theorem decodeFrom_four (h : 0x10000 ≤ c.toNat) :
    decodeFrom none (UInt8.ofNat (0xF0 + c.toNat / 262144) ::
        UInt8.ofNat (0x80 + c.toNat / 4096 % 64) :: UInt8.ofNat (0x80 + c.toNat / 64 % 64) ::
          UInt8.ofNat (0x80 + c.toNat % 64) :: rest) = some c :: decodeFrom none rest := by
  have hvalid : c.toNat < 0xD800 ∨ 0xDFFF < c.toNat ∧ c.toNat < 0x110000 := c.valid
  have hfirst := toNat_byte (n := 0xF0 + c.toNat / 262144) (by omega)
  have hsecond := toNat_byte (n := 0x80 + c.toNat / 4096 % 64) (by omega)
  have hthird := toNat_byte (n := 0x80 + c.toNat / 64 % 64) (by omega)
  have hfourth := toNat_byte (n := 0x80 + c.toNat % 64) (by omega)
  obtain ⟨least, greatest, hmore, hmin, hmax⟩ := firstByte_four h
  rw [decodeFrom_first _ (hfirst.symm ▸ hmore), decodeFrom_next _ (hsecond.symm ▸ hmin :)
    (hsecond.symm ▸ hmax :) rfl, decodeFrom_next _ _ _ rfl, decodeFrom_last _ _ _ rfl]
  · simp only [hsecond, hthird, hfourth]; omega
  · simp only [hfourth]; omega
  · simp only [hfourth]; omega
  · simp only [hthird]; omega
  · simp only [hthird]; omega

end

theorem decodeFrom_encodeChar (c : Char) (rest : List UInt8) :
    decodeFrom none (encodeChar c ++ rest) = some c :: decodeFrom none rest := by
  rw [encodeChar]
  split
  · next h => exact decodeFrom_one rest h
  split
  · next hone h => exact decodeFrom_two rest (by omega) h
  split
  · next htwo h => exact decodeFrom_three rest (by omega) h
  · next hthree => exact decodeFrom_four rest (by omega)

/-- The bytes of a text are read as the text. -/
theorem decodeLossy_encode (s : List Char) : decodeLossy (encode s) = s := by
  have hchars : decodeFrom none (encode s) = s.map some := by
    induction s with
    | nil => rfl
    | cons c rest ih =>
      rw [encode, List.flatMap_cons, decodeFrom_encodeChar, List.map_cons]
      exact congrArg (some c :: ·) ih
  rw [decodeLossy, hchars, List.map_map]
  exact List.map_id s

end PluginBuild.Text
