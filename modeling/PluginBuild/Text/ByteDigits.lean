import PluginBuild.Text.Numeral
/-!
# Bytes written with digits

Sequences of bytes written with printable digits, as in messages that may hold nothing else. Groups
of bytes are written with groups of digits, and a mark fills up the last group.
-/

namespace PluginBuild.Text

/-- A way of writing bytes. -/
structure ByteDigits where
  /-- The bits that a digit stands for. -/
  bits : Nat
  /-- The bytes of a group. -/
  bytes : Nat
  digits : List Char
  /-- Whether the bytes of a group that ends too early are read. -/
  readsShort : Bool

namespace ByteDigits

/-- The writing with 64 digits. -/
def base64 : ByteDigits :=
  ⟨6, 3, "ABCDEFGHIJKLMNOPQRSTUVWXYZabcdefghijklmnopqrstuvwxyz0123456789+/".toList, true⟩

/-- The writing with 32 digits. -/
def base32 : ByteDigits := ⟨5, 5, "ABCDEFGHIJKLMNOPQRSTUVWXYZ234567".toList, false⟩

/-- How many digits are in a group. -/
def groupSize (style : ByteDigits) : Nat := 8 * style.bytes / style.bits

/-- The digits of a group of bytes, of which there may be fewer than a whole group has. -/
def encodeGroup (style : ByteDigits) (group : List UInt8) : List Char :=
  let bytes := group ++ List.replicate (style.bytes - group.length) 0
  let n := bytes.foldl (fun n byte => 256 * n + byte.toNat) 0
  let used := (8 * group.length + style.bits - 1) / style.bits
  let digit (i : Nat) : Char :=
    if used ≤ i then '='
    else
      let shift := style.bits * (style.groupSize - 1 - i)
      style.digits.getD (Nat.shiftRight n shift % style.digits.length) '='
  (List.range style.groupSize).map digit

/-- The digits of bytes. `fuel` bounds the number of groups. -/
def encodeGroups (style : ByteDigits) : Nat → List UInt8 → List Char
  | 0, _ | _ + 1, [] => []
  | fuel + 1, bytes =>
    style.encodeGroup (bytes.take style.bytes) ++
      style.encodeGroups fuel (bytes.drop style.bytes)

/-- The digits of bytes. -/
def encode (style : ByteDigits) (bytes : List UInt8) : List Char :=
  style.encodeGroups bytes.length bytes

/-- The bytes of a group of digits, and whether the group is a right one. -/
def decodeGroup (style : ByteDigits) (group : List Char) : List UInt8 × Bool :=
  let digits := group.takeWhile (· ∈ style.digits)
  let isWhole := group.length = style.groupSize
  let count := style.bits * digits.length / 8
  let n := digits.foldl (fun n c => style.digits.length * n + style.digits.idxOf c) 0
  let spare := style.bits * digits.length - 8 * count
  let bytes := (List.range count).map fun i =>
    UInt8.ofNat (Nat.shiftRight n (spare + 8 * (count - 1 - i)) % 256)
  (if isWhole ∨ style.readsShort then bytes else [],
    isWhole && (group.drop digits.length).all (· = '=') && 0 < count && spare < style.bits)

/-- The bytes of digits up to the first wrong group, and whether there is none. `fuel` bounds the
number of groups. -/
def decodeGroups (style : ByteDigits) : Nat → List Char → List UInt8 × Bool
  | 0, _ | _ + 1, [] => ([], true)
  | fuel + 1, text =>
    match style.decodeGroup (text.take style.groupSize) with
    | (bytes, false) => (bytes, false)
    | (bytes, true) =>
      let (others, good) := style.decodeGroups fuel (text.drop style.groupSize)
      (bytes ++ others, good)

/-- The bytes of digits up to the first wrong group, and whether there is none. -/
def decode (style : ByteDigits) (text : List Char) : List UInt8 × Bool :=
  style.decodeGroups text.length text

end ByteDigits

end PluginBuild.Text
