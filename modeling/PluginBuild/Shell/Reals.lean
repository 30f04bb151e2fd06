import PluginBuild.Shell.Bytes
import PluginBuild.Text.Numeral
/-!
# Real numbers in print

Decimal numbers as the nearest fractions with 53 binary digits, and their notations with a number of
decimals.
-/

namespace PluginBuild.Shell

/-- A number that is not negative, as a fraction. -/
structure Fraction where
  numerator : Nat
  denominator : Nat

namespace Fraction

/-- The nearest whole number; of two that are as near, the even one. -/
def rounded (q : Fraction) : Nat :=
  let whole := q.numerator / q.denominator
  let twice := 2 * (q.numerator % q.denominator)
  if twice < q.denominator ∨ (twice = q.denominator ∧ whole % 2 = 0) then whole else whole + 1

/-- The fraction times a power of a number. -/
def scaled (radix : Nat) (power : Int) (q : Fraction) : Fraction :=
  if power < 0 then { q with denominator := q.denominator * Nat.pow radix power.natAbs }
  else { q with numerator := q.numerator * Nat.pow radix power.natAbs }

/-- The nearest fraction with 53 binary digits. -/
def nearest (q : Fraction) : Fraction :=
  if q.numerator = 0 then q
  else
    let guess : Int := 53 + (q.denominator.log2 : Int) - (q.numerator.log2 : Int)
    let power := if (q.scaled 2 guess).rounded ≤ 1 <<< 53 then guess else guess - 1
    scaled 2 (-power) ⟨(q.scaled 2 power).rounded, 1⟩

/-- The power of ten that the first digit stands for. -/
def magnitude (q : Fraction) : Int :=
  if q.numerator = 0 then 0
  else
    let guess : Int :=
      (toString q.numerator).length - (toString q.denominator).length
    if (q.scaled 10 (-guess)).numerator < (q.scaled 10 (-guess)).denominator then guess - 1
    else guess

/-- The number with a number of decimals. -/
def fixed (places : Nat) (q : Fraction) : List Char :=
  let digits := (toString (q.scaled 10 places).rounded).toList
  let digits := List.replicate (places + 1 - digits.length) '0' ++ digits
  let whole := digits.take (digits.length - places)
  if places = 0 then whole else whole ++ '.' :: digits.drop (digits.length - places)

/-- The first digits of the number, and the power of ten of the first one. -/
def leading (count : Nat) (q : Fraction) : List Char × Int :=
  let power := q.magnitude
  let digits := (toString (q.scaled 10 ((count : Int) - 1 - power)).rounded).toList
  if digits.length ≤ count then (List.replicate (count - digits.length) '0' ++ digits, power)
  else (digits.take count, power + 1)

/-- The power of ten in a notation. -/
def exponentText (letter : Char) (power : Int) : List Char :=
  let digits := (toString power.natAbs).toList
  letter :: (if power < 0 then '-' else '+') :: List.replicate (2 - digits.length) '0' ++ digits

/-- The number with one digit before a number of decimals, and a power of ten. -/
def scientific (letter : Char) (places : Nat) (q : Fraction) : List Char :=
  let (digits, power) := q.leading (places + 1)
  (if places = 0 then digits else digits.take 1 ++ '.' :: digits.drop 1) ++
    exponentText letter power

/-- Decimals without the zeros at their end. -/
def withoutZeros (text : List Char) : List Char :=
  if '.' ∈ text then
    let kept := (text.reverse.dropWhile (· = '0'))
    (if kept.head? = some '.' then kept.tail else kept).reverse
  else text

/-- The number with a number of digits, with a power of ten if that is shorter. -/
def general (letter : Char) (keepZeros : Bool) (count : Nat) (q : Fraction) : List Char :=
  let count := max count 1
  let power := (q.leading count).2
  if power < -4 ∨ (count : Int) ≤ power then
    let text := q.scientific letter (count - 1)
    let isMantissa (c : Char) : Bool := c ≠ letter
    if keepZeros then text
    else withoutZeros (text.takeWhile isMantissa) ++ text.dropWhile isMantissa
  else
    let text := q.fixed ((count : Int) - 1 - power).toNat
    if keepZeros then if '.' ∈ text then text else text ++ ['.'] else withoutZeros text

end Fraction

/-- The decimal number at the start of a text, and what follows it. -/
def decimalAt? (s : List Char) : Option (Fraction × List Char) :=
  let whole := s.takeWhile Char.isDigit
  let rest := s.drop whole.length
  let places := if rest.head? = some '.' then rest.tail.takeWhile Char.isDigit else []
  let hasPoint : Bool := rest.head? = some '.' && !(whole ++ places).isEmpty
  let rest := if hasPoint then rest.drop (places.length + 1) else rest
  let exponent : Option (Int × List Char) :=
    match rest with
    | e :: rest =>
      if e = 'e' ∨ e = 'E' then
        let isSigned := rest.head? = some '-' ∨ rest.head? = some '+'
        let digits := (if isSigned then rest.tail else rest).takeWhile Char.isDigit
        (Text.digits? 10 digits).map fun n =>
          (if rest.head? = some '-' then -(n : Int) else n,
            rest.drop (digits.length + if isSigned then 1 else 0))
      else none
    | [] => none
  (Text.digits? 10 (whole ++ places)).map fun n =>
    let (power, rest) := exponent.getD (0, rest)
    (Fraction.scaled 10 (power - places.length) ⟨n, 1⟩, rest)

end PluginBuild.Shell
