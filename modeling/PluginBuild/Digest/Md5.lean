import PluginBuild.Digest.Bytes
/-!
# MD5

The digest of a sequence of bytes, as 32 hexadecimal digits. The bytes are padded to blocks of 64,
and each block is mixed into four words of 32 bits in 64 steps.
-/

namespace PluginBuild.Digest

/-- The word whose bytes are given from the lowest up. -/
def wordOf (bytes : List UInt8) : UInt32 :=
  bytes.foldr (fun byte word => word * 256 + byte.toUInt32) 0

/-- A sequence cut into pieces of `size + 1`. The last piece may be shorter. -/
def pieces {α : Type} (size : Nat) (s : List α) : List (List α) :=
  match s with
  | [] => []
  | a :: rest => (a :: rest.take size) :: pieces size (rest.drop size)
termination_by s.length
decreasing_by simp only [List.length_drop, List.length_cons]; omega

/-- The bytes with a set bit, zeros up to the last eight bytes of a block, and the count of bits. -/
def pad (bytes : List UInt8) : List UInt8 :=
  let zeros := (119 - bytes.length % 64) % 64
  bytes ++ 0x80 :: List.replicate zeros 0 ++ littleEndian 8 (8 * bytes.length)

/-- The four words of the digest. -/
structure Words where
  a : UInt32
  b : UInt32
  c : UInt32
  d : UInt32

/-- The words before the first block. -/
def Words.start : Words := ⟨0x67452301, 0xefcdab89, 0x98badcfe, 0x10325476⟩

/-- The whole parts of the sines of 1 to 64, times 2 to the power of 32, without their signs. -/
def sines : List UInt32 :=
  [0xd76aa478, 0xe8c7b756, 0x242070db, 0xc1bdceee, 0xf57c0faf, 0x4787c62a, 0xa8304613, 0xfd469501,
    0x698098d8, 0x8b44f7af, 0xffff5bb1, 0x895cd7be, 0x6b901122, 0xfd987193, 0xa679438e, 0x49b40821,
    0xf61e2562, 0xc040b340, 0x265e5a51, 0xe9b6c7aa, 0xd62f105d, 0x02441453, 0xd8a1e681, 0xe7d3fbc8,
    0x21e1cde6, 0xc33707d6, 0xf4d50d87, 0x455a14ed, 0xa9e3e905, 0xfcefa3f8, 0x676f02d9, 0x8d2a4c8a,
    0xfffa3942, 0x8771f681, 0x6d9d6122, 0xfde5380c, 0xa4beea44, 0x4bdecfa9, 0xf6bb4b60, 0xbebfbc70,
    0x289b7ec6, 0xeaa127fa, 0xd4ef3085, 0x04881d05, 0xd9d4d039, 0xe6db99e5, 0x1fa27cf8, 0xc4ac5665,
    0xf4292244, 0x432aff97, 0xab9423a7, 0xfc93a039, 0x655b59c3, 0x8f0ccc92, 0xffeff47d, 0x85845dd1,
    0x6fa87e4f, 0xfe2ce6e0, 0xa3014314, 0x4e0811a1, 0xf7537e82, 0xbd3af235, 0x2ad7d2bb, 0xeb86d391]

/-- By how much the words are turned in the steps of each round. -/
def turns : List (List UInt32) :=
  [[7, 12, 17, 22], [5, 9, 14, 20], [4, 11, 16, 23], [6, 10, 15, 21]]

/-- The word turned left. -/
def turnLeft (word amount : UInt32) : UInt32 := (word <<< amount) ||| (word >>> (32 - amount))

/-- How three words are combined in a round. -/
def combine (round : Nat) (b c d : UInt32) : UInt32 :=
  match round with
  | 0 => (b &&& c) ||| (~~~b &&& d)
  | 1 => (d &&& b) ||| (~~~d &&& c)
  | 2 => b ^^^ c ^^^ d
  | _ => c ^^^ (b ||| ~~~d)

/-- The place in the block of the word that a step of a round takes. -/
def place (round i : Nat) : Nat :=
  match round with
  | 0 => i
  | 1 => (5 * i + 1) % 16
  | 2 => (3 * i + 5) % 16
  | _ => 7 * i % 16

/-- A step with a word of the block. -/
def step (block : List UInt32) (words : Words) (i : Nat) (sine : UInt32) : Words :=
  let round := i / 16
  let sum := words.a + combine round words.b words.c words.d + sine +
    block.getD (place round (i % 16)) 0
  let turn := (turns.getD round []).getD (i % 4) 0
  ⟨words.d, words.b + turnLeft sum turn, words.b, words.c⟩

/-- The words after a block. -/
def mixBlock (words : Words) (bytes : List UInt8) : Words :=
  let block := (pieces 3 bytes).map wordOf
  let mixed := sines.zipIdx.foldl (fun words entry => step block words entry.2 entry.1) words
  ⟨words.a + mixed.a, words.b + mixed.b, words.c + mixed.c, words.d + mixed.d⟩

/-- The sixteen bytes of the digest. -/
def md5Bytes (bytes : List UInt8) : List UInt8 :=
  let words := (pieces 63 (pad bytes)).foldl mixBlock .start
  [words.a, words.b, words.c, words.d].flatMap fun word => littleEndian 4 word.toNat

/-- The two hexadecimal digits of a byte. -/
def hexByte (byte : UInt8) : List Char :=
  let digits := Nat.toDigits 16 byte.toNat
  List.replicate (2 - digits.length) '0' ++ digits

/-- The digest in hexadecimal digits. -/
def md5 (bytes : List UInt8) : String := String.ofList ((md5Bytes bytes).flatMap hexByte)

end PluginBuild.Digest
