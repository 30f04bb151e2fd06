import PluginBuild.Json.Token
import PluginBuild.Text.Cut
/-!
# TOML values
-/

namespace PluginBuild.Toml

/-- A TOML value. -/
inductive Value
  | string (value : String)
  | integer (value : Int)
  | boolean (value : Bool)
  /-- A number that is not whole, or a date or time, which no setting holds. -/
  | other
  | array (values : List Value)
  | table (fields : List (String × Value))

/-- The digits of a number whose digits in `radix` may have single underscores between them. -/
def digits? (radix : Nat) (s : List Char) : Option Nat :=
  if (s.splitOn '_').any List.isEmpty then none else Text.digits? radix (s.filter (· ≠ '_'))

/-- Whether a text is zero or a row of digits that does not start with zero. -/
def isWhole (s : List Char) : Bool :=
  (digits? 10 s).isSome && (s.length = 1 || s.head? != some '0')

/-- The text after a sign, if it has one, and whether the sign is a minus. -/
def takeSign : List Char → Bool × List Char
  | [] => (false, [])
  | c :: rest =>
    if c = '-' then (true, rest) else if c = '+' then (false, rest) else (false, c :: rest)

/-- A whole number of 64 bits, in decimal with a sign or in another radix without one. -/
def integer? (s : List Char) : Option Int :=
  let value : Option Int :=
    match s with
    | '0' :: 'x' :: digits => (digits? 16 digits).map fun n => (n : Int)
    | '0' :: 'o' :: digits => (digits? 8 digits).map fun n => (n : Int)
    | '0' :: 'b' :: digits => (digits? 2 digits).map fun n => (n : Int)
    | s =>
      let (negative, digits) := takeSign s
      if isWhole digits then
        (digits? 10 digits).map fun n => if negative then -(n : Int) else (n : Int)
      else none
  value.filter fun n => Text.minInt64 ≤ n ∧ n ≤ Text.maxInt64

/-- Whether a text is nothing or an exponent. -/
def isExponent : List Char → Bool
  | [] => true
  | c :: rest => (c == 'e' || c == 'E') && (digits? 10 (takeSign rest).2).isSome

/-- Whether a text is a fraction, an exponent or both. -/
def isFraction : List Char → Bool
  | [] => false
  | c :: rest =>
    if c = '.' then
      let isPart (c : Char) : Bool := c.isDigit || c == '_'
      (digits? 10 (rest.takeWhile isPart)).isSome && isExponent (rest.dropWhile isPart)
    else isExponent (c :: rest)

/-- The least number that rounds to none which a real can hold. -/
def leastInfinite : Nat := 1 <<< 1024 - 1 <<< 970

/-- Whether a decimal number without a sign is one that a real can hold. -/
def isFinite (s : List Char) : Bool :=
  let isMantissa (c : Char) : Bool := c.isDigit || c == '.'
  let mantissa := s.takeWhile isMantissa
  let fraction := (mantissa.dropWhile Char.isDigit).drop 1
  let value := (Text.digits? 10 (mantissa.filter Char.isDigit)).getD 0
  let (negative, digits) := takeSign ((s.dropWhile isMantissa).drop 1)
  let power : Int := (Text.digits? 10 digits).getD 0
  let exponent := (if negative then -power else power) - (fraction.length : Int)
  let places := ((Nat.toDigits 10 value).length : Int) + exponent
  value = 0 || places ≤ 308 ||
    (places = 309 &&
      value * Nat.pow 10 exponent.toNat < leastInfinite * Nat.pow 10 (-exponent).toNat)

/-- Whether a text is a number that is not whole. Positive ones have to be finite. -/
def isReal (s : List Char) : Bool :=
  let (negative, unsigned) := takeSign s
  let isPart (c : Char) : Bool := c.isDigit || c == '_'
  unsigned = "inf".toList || unsigned = "nan".toList ||
    (isWhole (unsigned.takeWhile isPart) && isFraction (unsigned.dropWhile isPart) &&
      (negative || isFinite (unsigned.filter (· ≠ '_'))))

/-- What follows the shape in a text, where `d` stands for any digit and every other character for
itself. -/
def afterShape? : List Char → List Char → Option (List Char)
  | [], s => some s
  | _ :: _, [] => none
  | d :: shape, c :: s =>
    if (d = 'd' ∧ c.isDigit) ∨ (d ≠ 'd' ∧ c = d) then afterShape? shape s else none

/-- The number whose digits start at a place in a text. -/
def numberAt (place count : Nat) (s : List Char) : Nat :=
  (Text.digits? 10 ((s.drop place).take count)).getD 0

/-- The number of days of a month. -/
def daysOf (year month : Nat) : Nat :=
  if month = 2 then if year % 4 = 0 ∧ (year % 100 ≠ 0 ∨ year % 400 = 0) then 29 else 28
  else if month ∈ [4, 6, 9, 11] then 30
  else 31

/-- What follows a date of the calendar. -/
def afterDate? (s : List Char) : Option (List Char) :=
  let month := numberAt 5 2 s
  let day := numberAt 8 2 s
  if 1 ≤ month ∧ month ≤ 12 ∧ 1 ≤ day ∧ day ≤ daysOf (numberAt 0 4 s) month then
    afterShape? "dddd-dd-dd".toList s
  else none

/-- What follows a time of day. A minute may have a leap second. -/
def afterTime? (s : List Char) : Option (List Char) :=
  if numberAt 0 2 s ≤ 23 ∧ numberAt 3 2 s ≤ 59 ∧ numberAt 6 2 s ≤ 60 then
    (afterShape? "dd:dd:dd".toList s).bind fun rest =>
      if rest.head? = some '.' then
        if (rest[1]?.any Char.isDigit) then some ((rest.drop 1).dropWhile Char.isDigit) else none
      else some rest
  else none

/-- Whether a text is nothing or a distance from universal time. -/
def isOffset (s : List Char) : Bool :=
  s.isEmpty || s = ['Z'] || s = ['z'] ||
    ((afterShape? "+dd:dd".toList s == some [] || afterShape? "-dd:dd".toList s == some []) &&
      numberAt 1 2 s ≤ 23 && numberAt 4 2 s ≤ 59)

/-- Whether a text is a date, a time of day or both. -/
def isDateTime (s : List Char) : Bool :=
  match afterDate? s with
  | none => afterTime? s == some []
  | some [] => true
  | some (c :: rest) => (c == 'T' || c == 't' || c == ' ') && (afterTime? rest).any isOffset

/-- The value that a word is. -/
def word? (s : List Char) : Option Value :=
  if s = "true".toList then some (.boolean true)
  else if s = "false".toList then some (.boolean false)
  else match integer? s with
    | some n => some (.integer n)
    | none => if isReal s ∨ isDateTime s then some .other else none

end PluginBuild.Toml
