/-!
# UTF-8

Writing characters as bytes and reading bytes as characters. Reading turns each ill-formed run of
bytes, as long as a character could still begin with it, into one fault.
-/

namespace PluginBuild.Text

/-- The bytes of a character. -/
def encodeChar (c : Char) : List UInt8 :=
  let n := c.toNat
  if n < 0x80 then [UInt8.ofNat n]
  else if n < 0x800 then [UInt8.ofNat (0xC0 + n / 64), UInt8.ofNat (0x80 + n % 64)]
  else if n < 0x10000 then
    [UInt8.ofNat (0xE0 + n / 4096), UInt8.ofNat (0x80 + n / 64 % 64), UInt8.ofNat (0x80 + n % 64)]
  else
    [UInt8.ofNat (0xF0 + n / 262144), UInt8.ofNat (0x80 + n / 4096 % 64),
      UInt8.ofNat (0x80 + n / 64 % 64), UInt8.ofNat (0x80 + n % 64)]

/-- The bytes of a text. -/
def encode (s : List Char) : List UInt8 := s.flatMap encodeChar

/-- A character of which the first bytes have been read. -/
structure PartialChar where
  /-- The bits read so far. -/
  value : Nat
  /-- The number of bytes after the next one. -/
  owed : Nat
  /-- The least byte that can come next. -/
  least : Nat
  /-- The greatest byte that can come next. -/
  greatest : Nat

/-- What a byte between two characters begins. -/
inductive FirstByte
  | whole (c : Char)
  | more (p : PartialChar)
  | illFormed

/-- What a byte between two characters begins. -/
def firstByte (b : Nat) : FirstByte :=
  if b < 0x80 then .whole (Char.ofNat b)
  else if b < 0xC2 then .illFormed
  else if b < 0xE0 then .more ⟨b - 0xC0, 0, 0x80, 0xBF⟩
  else if b = 0xE0 then .more ⟨0, 1, 0xA0, 0xBF⟩
  else if b = 0xED then .more ⟨0xD, 1, 0x80, 0x9F⟩
  else if b < 0xF0 then .more ⟨b - 0xE0, 1, 0x80, 0xBF⟩
  else if b = 0xF0 then .more ⟨0, 2, 0x90, 0xBF⟩
  else if b < 0xF4 then .more ⟨b - 0xF0, 2, 0x80, 0xBF⟩
  else if b = 0xF4 then .more ⟨4, 2, 0x80, 0x8F⟩
  else .illFormed

/-- The characters of a text whose next byte goes on with `p`, and `none` for each fault. -/
def decodeFrom (p : Option PartialChar) : List UInt8 → List (Option Char)
  | [] => if p.isSome then [none] else []
  | b :: rest =>
    let fresh : Unit → List (Option Char) := fun _ =>
      match firstByte b.toNat with
      | .whole c => some c :: decodeFrom none rest
      | .more q => decodeFrom (some q) rest
      | .illFormed => none :: decodeFrom none rest
    match p with
    | none => fresh ()
    | some p =>
      if p.least ≤ b.toNat ∧ b.toNat ≤ p.greatest then
        let value := p.value * 64 + (b.toNat - 0x80)
        match p.owed with
        | 0 => some (Char.ofNat value) :: decodeFrom none rest
        | owed + 1 => decodeFrom (some ⟨value, owed, 0x80, 0xBF⟩) rest
      else none :: fresh ()

/-- The text that the bytes are, with U+FFFD in place of each fault. -/
def decodeLossy (bytes : List UInt8) : List Char :=
  (decodeFrom none bytes).map (·.getD '\uFFFD')

/-- The text that the bytes are, where they have no fault. -/
def decode? (bytes : List UInt8) : Option (List Char) := (decodeFrom none bytes).mapM id

end PluginBuild.Text
