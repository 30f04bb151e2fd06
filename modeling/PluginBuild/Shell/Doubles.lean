import PluginBuild.Shell.Printing
import PluginBuild.Shell.Reals
/-!
# Floating point numbers

Numbers with 53 binary digits: what they are exactly, and how they are written and read.
-/

namespace PluginBuild.Shell

/-- What a floating point number is exactly. -/
inductive Magnitude
  | notANumber
  | infinite
  | finite (q : Fraction)

/-- The magnitude of a floating point number, and whether its sign is set. -/
def magnitudeOf (x : Float) : Bool × Magnitude :=
  let bits := x.toBits.toNat
  let exponent := bits >>> 52 % 2048
  let digits := bits % (1 <<< 52)
  let magnitude : Magnitude :=
    if exponent = 2047 then if digits = 0 then .infinite else .notANumber
    else if exponent = 0 then .finite (Fraction.scaled 2 (-1074) ⟨digits, 1⟩)
    else .finite (Fraction.scaled 2 ((exponent : Int) - 1075) ⟨digits + 1 <<< 52, 1⟩)
  (1 <<< 63 ≤ bits, magnitude)

/-- The whole number that is nearest to a floating point number towards zero, if there is one. -/
def wholePart? (x : Float) : Option Int :=
  match magnitudeOf x with
  | (isNegative, .finite q) =>
    let n : Int := q.numerator / q.denominator
    some (if isNegative then -n else n)
  | _ => none

/-- The whole number that a floating point number is. -/
def asWhole? (x : Float) : Option Int :=
  match magnitudeOf x with
  | (_, .finite q) => if q.numerator % q.denominator = 0 then wholePart? x else none
  | _ => none

/-- The floating point number that is nearest to a number of tenths to some power. -/
def ofTenths (n : Nat) (power : Int) : Float :=
  let size := (toString n).length
  if n = 0 then 0
  else if 400 < power + size then Float.ofScientific 1 false 400
  else if power + size < -400 then 0
  else Float.ofScientific n (power < 0) power.natAbs

/-- The natural number that a floating point number is, unless it is large. -/
def smallWhole? (x : Float) : Option Nat :=
  if 0 ≤ x ∧ x < 4294967296 ∧ x.floor == x then some x.toUInt64.toNat else none

/-- What is left of an exact division that is rounded towards zero. -/
def exactRemainder (x y : Float) : Float :=
  match magnitudeOf x, magnitudeOf y with
  | (isNegative, .finite p), (_, .finite q) =>
    if q.numerator = 0 then 0.0 / 0.0
    else
      let a := p.numerator * q.denominator
      let b := q.numerator * p.denominator
      let rest := Float.ofNat (a % b) / Float.ofNat (p.denominator * q.denominator)
      if isNegative then -rest else rest
  | (_, .finite _), (_, .infinite) => x
  | _, _ => 0.0 / 0.0

/-- What is left of a division that is rounded towards zero. -/
def remainderOf (x y : Float) : Float :=
  match smallWhole? x, smallWhole? y with
  | some n, some (m + 1) => Float.ofNat (n % (m + 1))
  | _, _ => exactRemainder x y

/-- Whether a text starts with a word, in small or capital letters. -/
def startsWithWord (word : String) (s : List Char) : Bool :=
  (s.take word.length).map Char.toLower = word.toList

/-- The floating point number at the start of a text without a sign, and what follows it. -/
def unsignedAt? (s : List Char) : Option (Float × List Char) :=
  if startsWithWord "infinity" s then some (1.0 / 0.0, s.drop 8)
  else if startsWithWord "inf" s then some (1.0 / 0.0, s.drop 3)
  else if startsWithWord "nan" s then some (0.0 / 0.0, s.drop 3)
  else
    let digits := (s.drop 2).takeWhile isHexadecimal
    if startsWithWord "0x" s ∧ !digits.isEmpty then
      some (Float.ofNat ((Text.digits? 16 digits).getD 0), s.drop (2 + digits.length))
    else
      let whole := s.takeWhile Char.isDigit
      let rest := s.drop whole.length
      let places := if rest.head? = some '.' then rest.tail.takeWhile Char.isDigit else []
      let rest := if rest.head? = some '.' then rest.drop (places.length + 1) else rest
      (Text.digits? 10 (whole ++ places)).map fun n =>
        let isSigned := rest[1]? = some '-' ∨ rest[1]? = some '+'
        let digits := (rest.drop (if isSigned then 2 else 1)).takeWhile Char.isDigit
        let hasExponent := (rest.head? = some 'e' ∨ rest.head? = some 'E') ∧ !digits.isEmpty
        let size : Int := (Text.digits? 10 digits).getD 0
        let power : Int := if !hasExponent then 0 else if rest[1]? = some '-' then -size else size
        let length := digits.length + if isSigned then 2 else 1
        (ofTenths n (power - places.length), if hasExponent then rest.drop length else rest)

/-- The floating point number at the start of a text, after blanks, and what follows it. -/
def floatAt? (s : List Char) : Option (Float × List Char) :=
  match dropSpace s with
  | '-' :: rest => (unsignedAt? rest).map fun (x, rest) => (-x, rest)
  | '+' :: rest => unsignedAt? rest
  | rest => unsignedAt? rest

end PluginBuild.Shell
