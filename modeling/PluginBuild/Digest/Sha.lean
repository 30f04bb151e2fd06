import PluginBuild.Digest.Md5
/-!
# SHA-1 and SHA-2

The secure hashes of sequences of bytes, as hexadecimal digits. The bytes are padded to blocks of
sixteen words, and each block is mixed into five or eight words. The constants are the first bits
after the point in roots of the first primes.
-/

namespace PluginBuild.Digest

/-- The first eighty primes. -/
def primes : List Nat :=
  (List.range 410).filter fun n => 2 ≤ n && (List.range n).all fun d => d < 2 || n % d ≠ 0

/-- The whole part of the root of a degree, if that has no more than a number of bits. -/
def wholeRoot (degree bits n : Nat) : Nat :=
  (List.range bits).foldr (fun bit root =>
    let larger := root + Nat.shiftLeft 1 bit
    if Nat.pow larger degree ≤ n then larger else root) 0

/-- The first 64 bits after the point in the root of a prime. -/
def rootBits (degree prime : Nat) : Nat :=
  wholeRoot degree 70 (Nat.shiftLeft prime (64 * degree)) % Nat.shiftLeft 1 64

/-- Bytes with a set bit, zeros up to the end of a block, and there the count of their bits. A
block has sixteen words, and the count has two. -/
def padWords (size : Nat) (bytes : List UInt8) : List UInt8 :=
  let zeros := (30 * size - 1 - bytes.length % (16 * size)) % (16 * size)
  bytes ++ 0x80 :: List.replicate zeros 0 ++ (littleEndian (2 * size) (8 * bytes.length)).reverse

/-- The number whose bytes are given from the highest down. -/
def bigEndianNumber (bytes : List UInt8) : Nat :=
  bytes.foldl (fun n byte => 256 * n + byte.toNat) 0

/-- A hash by its words. -/
structure WordHash where
  /-- The bytes of a word. -/
  size : Nat
  /-- The words before the first block. -/
  start : List Nat
  /-- The constants of the rounds. -/
  constants : List Nat
  /-- The word that follows the ones before it, the last of which comes first. -/
  next : List Nat → Nat
  /-- The words after a round, with the number, the constant and the word of the round. -/
  round : List Nat → Nat → Nat → Nat → List Nat

namespace WordHash

/-- How many words there are. -/
def modulus (size : Nat) : Nat := Nat.shiftLeft 1 (8 * size)

/-- A word turned right by a number of bits. -/
def turnRight (size amount word : Nat) : Nat :=
  Nat.lor (Nat.shiftRight word amount) (Nat.shiftLeft word (8 * size - amount)) % modulus size

/-- What two words have in common with a third one, bit by bit: the first one where that is set and
the second one where it is not. -/
def choose (a b c : Nat) : Nat := Nat.xor c (Nat.land a (Nat.xor b c))

/-- The bits that two of three words have at least. -/
def majority (a b c : Nat) : Nat := Nat.lor (Nat.land a b) (Nat.land c (Nat.lor a b))

/-- The words of the rounds, the last one first. -/
def schedule (hash : WordHash) (block : List Nat) : List Nat :=
  (List.range (hash.constants.length - block.length)).foldl
    (fun words _ => hash.next words :: words) block.reverse

/-- The words after a block. -/
def mix (hash : WordHash) (words block : List Nat) : List Nat :=
  let rounds := (hash.constants.zip (hash.schedule block).reverse).zipIdx
  let mixed := rounds.foldl (fun words entry =>
    hash.round words entry.2 entry.1.1 entry.1.2) words
  (words.zip mixed).map fun (a, b) => (a + b) % modulus hash.size

/-- The first bytes of the words after all blocks. -/
def digest (hash : WordHash) (length : Nat) (bytes : List UInt8) : List UInt8 :=
  let blocks := pieces (16 * hash.size - 1) (padWords hash.size bytes)
  let words := blocks.foldl (fun words block =>
    hash.mix words ((pieces (hash.size - 1) block).map bigEndianNumber)) hash.start
  (words.flatMap fun word => (littleEndian hash.size word).reverse).take length

end WordHash

/-- The hash with five words of 32 bits and four kinds of rounds. -/
def sha1Hash : WordHash :=
  { size := 4
    start := [0x67452301, 0xefcdab89, 0x98badcfe, 0x10325476, 0xc3d2e1f0]
    constants := [2, 3, 5, 10].flatMap fun n =>
      List.replicate 20 (wholeRoot 2 32 (Nat.shiftLeft n 60))
    next := fun words =>
      let word (i : Nat) : Nat := words.getD i 0
      WordHash.turnRight 4 31 (Nat.xor (Nat.xor (word 2) (word 7)) (Nat.xor (word 13) (word 15)))
    round := fun words number constant word =>
      match words with
      | [a, b, c, d, e] =>
        let kind := number / 20
        let combined :=
          if kind = 0 then WordHash.choose b c d
          else if kind = 2 then WordHash.majority b c d
          else Nat.xor b (Nat.xor c d)
        [(WordHash.turnRight 4 27 a + combined + e + constant + word) % WordHash.modulus 4, a,
          WordHash.turnRight 4 2 b, c, d]
      | words => words }

/-- By how many bits words are turned, and in the last place moved, before they are combined. -/
structure Turning where
  /-- For the first word of a round. -/
  upper : Nat × Nat × Nat
  /-- For the fifth word of a round. -/
  lower : Nat × Nat × Nat
  /-- For the word fifteen places before the next one. -/
  early : Nat × Nat × Nat
  /-- For the word two places before the next one. -/
  late : Nat × Nat × Nat

/-- A hash with eight words. -/
def sha2Hash (size rounds : Nat) (turning : Turning) (start : List Nat) : WordHash :=
  { size, start
    constants := (primes.take rounds).map fun prime =>
      Nat.shiftRight (rootBits 3 prime) (64 - 8 * size)
    next := fun words =>
      let word (i : Nat) : Nat := words.getD i 0
      let moved (amounts : Nat × Nat × Nat) (word : Nat) : Nat :=
        Nat.xor (WordHash.turnRight size amounts.1 word)
          (Nat.xor (WordHash.turnRight size amounts.2.1 word) (Nat.shiftRight word amounts.2.2))
      (moved turning.late (word 1) + word 6 + moved turning.early (word 14) + word 15) %
        WordHash.modulus size
    round := fun words _ constant word =>
      let turned (amounts : Nat × Nat × Nat) (word : Nat) : Nat :=
        Nat.xor (WordHash.turnRight size amounts.1 word)
          (Nat.xor (WordHash.turnRight size amounts.2.1 word)
            (WordHash.turnRight size amounts.2.2 word))
      match words with
      | [a, b, c, d, e, f, g, h] =>
        let added := h + turned turning.lower e + WordHash.choose e f g + constant + word
        [(added + turned turning.upper a + WordHash.majority a b c) % WordHash.modulus size, a, b,
          c, (d + added) % WordHash.modulus size, e, f, g]
      | words => words }

/-- The hash with eight words of 32 bits that starts from some words. -/
def sha2Short (start : List Nat) : WordHash :=
  sha2Hash 4 64 ⟨(2, 13, 22), (6, 11, 25), (7, 18, 3), (17, 19, 10)⟩ start

/-- The hash with eight words of 64 bits that starts from some words. -/
def sha2Long (start : List Nat) : WordHash :=
  sha2Hash 8 80 ⟨(28, 34, 39), (14, 18, 41), (1, 8, 7), (19, 61, 6)⟩ start

/-- The first bits of the square roots of the first eight primes. -/
def earlyRoots : List Nat := (primes.take 8).map (rootBits 2)

/-- The first bits of the square roots of the next eight primes. -/
def laterRoots : List Nat := ((primes.drop 8).take 8).map (rootBits 2)

/-- The digits of a hash. -/
def hexDigits (bytes : List UInt8) : String := String.ofList (bytes.flatMap hexByte)

/-- The digits of the hash of 160 bits. -/
def sha1 (bytes : List UInt8) : String := hexDigits (sha1Hash.digest 20 bytes)

/-- The digits of the hash of 224 bits. -/
def sha224 (bytes : List UInt8) : String :=
  hexDigits ((sha2Short (laterRoots.map (· % WordHash.modulus 4))).digest 28 bytes)

/-- The digits of the hash of 256 bits. -/
def sha256 (bytes : List UInt8) : String :=
  hexDigits ((sha2Short (earlyRoots.map fun word => Nat.shiftRight word 32)).digest 32 bytes)

/-- The digits of the hash of 384 bits. -/
def sha384 (bytes : List UInt8) : String := hexDigits ((sha2Long laterRoots).digest 48 bytes)

/-- The digits of the hash of 512 bits. -/
def sha512 (bytes : List UInt8) : String := hexDigits ((sha2Long earlyRoots).digest 64 bytes)

end PluginBuild.Digest
