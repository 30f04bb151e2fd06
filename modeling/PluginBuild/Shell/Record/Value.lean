import PluginBuild.Shell.Doubles
import PluginBuild.Shell.Record.Syntax
import PluginBuild.Shell.Record.Table
/-!
# Values of record scripts

Numbers and texts, each of which stands for one of the other kind where that is asked for.
-/

namespace PluginBuild.Shell.Record

/-- A value. -/
inductive Value
  /-- What nothing has been put into. -/
  | unset
  | number (x : Float)
  | text (s : String)
  /-- A text from outside, which counts as a number if it looks like one. -/
  | input (s : String)

/-- The number that a whole text looks like. -/
def lookedAt? (s : String) : Option Float :=
  let body := dropSpace s.toList
  let mayStart : Bool := body.head?.any fun c => c.isDigit || c = '+' || c = '-' || c = '.'
  let mayEnd : Bool := (body.reverse.dropWhile isSpace).head?.any fun c => c.isDigit || c = '.'
  if mayStart && mayEnd then
    match floatAt? body with
    | some (x, rest) => if rest.all isSpace then some x else none
    | none => none
  else none

/-- The text of a number that is whole and not too large. -/
def wholeText? (x : Float) : Option String :=
  match asWhole? x with
  | none => none
  | some n =>
    let bottom : Int := -(1 <<< 63 : Nat)
    let top : Int := (1 <<< 64 : Nat)
    if bottom ≤ n ∧ n ≤ top then some (toString (min n (top - 1))) else none

/-- The whole number for a format that takes numbers with a sign. -/
def signedPart (x : Float) : Int :=
  let bottom : Int := -(1 <<< 63 : Nat)
  match magnitudeOf x with
  | (_, .notANumber) => bottom
  | (isNegative, .infinite) => if isNegative then bottom + 1 else (1 <<< 64 : Nat) - 1
  | (_, .finite _) =>
    let n := (wholePart? x).getD 0
    if n < bottom then bottom + 1 else min n ((1 <<< 64 : Nat) - 1)

/-- The whole number for a format that takes numbers without a sign. -/
def unsignedPart (x : Float) : Nat :=
  let size : Nat := 1 <<< 64
  match magnitudeOf x with
  | (_, .notANumber) => 1 <<< 63
  | (isNegative, .infinite) => if isNegative then 1 else size - 1
  | (_, .finite _) =>
    let n := (wholePart? x).getD 0
    let most := min n.natAbs (size - 1)
    if n < 0 then (size - most) % size else most

/-- The text of a floating point number by a conversion, after its sign. -/
def floatText (letter : Char) (flags : List Char) (precision : Option Nat) (x : Float) :
    List Char × List Char :=
  let cased (word : List Char) : List Char :=
    if letter.isUpper then word.map Char.toUpper else word
  match magnitudeOf x with
  | (_, .notANumber) => (['-'], cased ['n', 'a', 'n'])
  | (isNegative, .infinite) => (Printout.signText flags isNegative, cased ['i', 'n', 'f'])
  | (isNegative, .finite q) =>
    (Printout.signText flags isNegative, Printout.realText letter flags precision q)

/-- What is wrong with a format of a script. -/
inductive FormatError
  | tooFew
  /-- The number of the argument that cannot be converted. -/
  | improper (number : Nat)

namespace Value

/-- The truth value of a condition. -/
def ofBool (b : Bool) : Value := .number (if b then 1 else 0)

/-- The value of a natural number. -/
def ofNat (n : Nat) : Value := .number (Float.ofNat n)

/-- The number that a value stands for. -/
def toNumber : Value → Float
  | unset => 0
  | number x => x
  | text s | input s => ((floatAt? s.toList).map (·.1)).getD 0

/-- The number that a value is. -/
def number? : Value → Option Float
  | unset => some 0
  | number x => some x
  | text _ => none
  | input s => lookedAt? s

/-- Whether a value counts as true. -/
def isTrue : Value → Bool
  | unset => false
  | number x => x != 0
  | text s => s ≠ ""
  | input s => (lookedAt? s).elim (s ≠ "") (· != 0)

end Value

/-- A measure of a format: the number, or the next value. -/
def measureOf (m : Measure) (values : List Value) : Option (Int × List Value) :=
  match m, values with
  | .fixed n, values => some (n, values)
  | .given, value :: rest => some (signedPart value.toNumber, rest)
  | .given, [] => none

/-- The text of a value by a conversion, unless that is none. Numbers have texts by `ofNumber`. -/
def converted? (ofNumber : Float → String) (flags : List Char) (width : Int)
    (precision : Option Nat) (letter : Char) (value : Value) : Option (List Char) :=
  let fill (zeros : Bool) (sign text : List Char) : Option (List Char) :=
    some (Printout.filled flags width zeros sign text)
  if letter = 'c' then
    let text :=
      match value with
      | .number x => [Char.ofNat (unsignedPart x % 256)]
      | .input s =>
        match lookedAt? s with
        | some x => [Char.ofNat (unsignedPart x % 256)]
        | none => [s.toList.headD '\x00']
      | .text s => [s.toList.headD '\x00']
      | .unset => ['\x00']
    fill false [] text
  else if letter = 's' then
    let text :=
      match value with
      | .unset => []
      | .number x => (ofNumber x).toList
      | .text s | .input s => s.toList
    fill false [] (precision.elim text text.take)
  else if letter = 'd' ∨ letter = 'i' then
    let n := signedPart value.toNumber
    fill precision.isNone (Printout.signText flags (n < 0))
      (Printout.digitsText 'd' precision n.natAbs)
  else if letter ∈ ['o', 'u', 'x', 'X'] then
    let n := unsignedPart value.toNumber
    let digits := Printout.digitsText letter precision n
    let isOctal : Bool := letter = 'o' && digits.head? ≠ some '0'
    if '#' ∈ flags ∧ letter.toLower = 'x' ∧ n ≠ 0 then fill precision.isNone ['0', letter] digits
    else fill precision.isNone [] (if '#' ∈ flags ∧ isOctal then '0' :: digits else digits)
  else if letter ∈ ['e', 'E', 'f', 'g', 'G'] then
    let x := value.toNumber
    let (sign, text) := floatText letter flags precision x
    fill (x - x == 0) sign text
  else none

/-- The text of values by a format, and what is wrong where it ends before. `count` is the number of
the values that have been used. -/
def formatted (ofNumber : Float → String) : Nat → Nat → List Char → List Value →
    List Char × Option FormatError
  | 0, _, _, _ => ([], none)
  | _ + 1, _, [], _ => ([], none)
  | fuel + 1, count, '%' :: '%' :: rest, values =>
    let (text, error) := formatted ofNumber fuel count rest values
    ('%' :: text, error)
  | fuel + 1, count, '%' :: rest, values =>
    let isFlag (c : Char) : Bool := c ∈ ['#', '-', '+', ' ', '0', '\'']
    let isSize (c : Char) : Bool := c = 'l' || c = 'h'
    let flags := rest.takeWhile isFlag
    let (width, rest) := measureAt (rest.drop flags.length)
    let (precision, rest) : Option Measure × List Char :=
      match rest with
      | '.' :: rest => (some (measureAt rest).1, (measureAt rest).2)
      | _ => (none, rest)
    let result : Except FormatError (List Char × List Value) := do
      let some (width, values) := measureOf width values | throw .tooFew
      let some (places, values) := measureOf (precision.getD (.fixed 0)) values | throw .tooFew
      let precision := if precision.isSome ∧ 0 ≤ places then some places.toNat else none
      match values with
      | [] => throw .tooFew
      | value :: values =>
        let isWhole (c : Char) : Bool := c ∈ ['d', 'i', 'o', 'u', 'x', 'X']
        let letter := (rest.dropWhile isSize).headD '%'
        let letter := if rest.head?.any isSize && !isWhole letter then '%' else letter
        match converted? ofNumber flags width precision letter value with
        | some text => return (text, values)
        | none => throw (.improper (count + 1))
    match result with
    | .error error => ([], some error)
    | .ok (text, left) =>
      let used := count + (values.length - left.length)
      let (more, error) := formatted ofNumber fuel used ((rest.dropWhile isSize).drop 1) left
      (text ++ more, error)
  | fuel + 1, count, c :: rest, values =>
    let (text, error) := formatted ofNumber fuel count rest values
    (c :: text, error)

/-- The text of a number by a format. -/
def numberText (format : String) (x : Float) : String :=
  match wholeText? x with
  | some text => text
  | none =>
    String.ofList
      (formatted (fun _ => "") (format.length + 1) 0 format.toList [.number x]).1

namespace Value

/-- The text that a value stands for, with a format for numbers that are not whole. -/
def toText (format : String) : Value → String
  | unset => ""
  | number x => numberText format x
  | text s | input s => s

/-- The index that a value is. -/
def toIndex (format : String) : Value → Index
  | number x =>
    match asWhole? x with
    | some n =>
      let bottom : Int := -(1 <<< 63 : Nat)
      let top : Int := (1 <<< 63 : Nat)
      if bottom ≤ n ∧ n < top then .number n else .text (numberText format x)
    | none => .text (numberText format x)
  | value => .text (value.toText format)

/-- How a value compares with another one: as numbers if both are numbers, or else as texts. -/
def order (format : String) (a b : Value) : Ordering :=
  match a.number?, b.number? with
  | some x, some y => if y < x then .gt else if x < y then .lt else .eq
  | _, _ =>
    let s := a.toText format
    let t := b.toText format
    if s < t then .lt else if t < s then .gt else .eq

end Value

/-- Whether a comparison holds where values compare in some way. -/
def Comparison.holds : Comparison → Ordering → Bool
  | less, o => o = .lt
  | atMost, o => o ≠ .gt
  | equal, o => o = .eq
  | unequal, o => o ≠ .eq
  | atLeast, o => o ≠ .lt
  | greater, o => o = .gt

/-- The result of an operation on numbers. -/
def Operation.apply : Operation → Float → Float → Float
  | add, x, y => x + y
  | subtract, x, y => x - y
  | multiply, x, y => x * y
  | divide, x, y => x / y
  | remainder, x, y => remainderOf x y
  | power, x, y => Float.pow x y

/-- The part of a text from a place on. Places before the first character make it longer. -/
def partOf (s : String) (start : Float) (length : Option Float) : String :=
  let begin := (wholePart? start).getD 0
  let rest := s.toList.drop (begin - 1).toNat
  match length with
  | none => String.ofList rest
  | some length =>
    match magnitudeOf length with
    | (isNegative, .infinite) => if isNegative then "" else String.ofList rest
    | _ =>
      let size := (wholePart? length).getD 0
      let size := if begin < 0 then size - begin else size
      String.ofList (rest.take size.toNat)

/-- A replacement with the text that it replaces where an ampersand stands. -/
def replacement (matched : List Char) : Nat → List Char → List Char
  | 0, _ | _ + 1, [] => []
  | fuel + 1, '&' :: rest => matched ++ replacement matched fuel rest
  | fuel + 1, '\\' :: rest =>
    let more := rest.takeWhile (· = '\\')
    let count := more.length + 1
    let after := rest.drop more.length
    match after with
    | '&' :: after =>
      List.replicate (count / 2) '\\' ++ (if count % 2 = 1 then ['&'] else matched) ++
        replacement matched fuel after
    | _ => List.replicate count '\\' ++ replacement matched fuel after
  | fuel + 1, c :: rest => c :: replacement matched fuel rest

/-- A text with matches of an expression replaced, from a position on, and their number. An empty
match does not count right after a match. -/
def replaced (regex : Regex) (text : Array Char) (replace : List Char → List Char) (isAll : Bool) :
    Nat → Nat → Option Nat → List Char × Nat
  | 0, position, _ => (text.toList.drop position, 0)
  | fuel + 1, position, last =>
    match regex.find? text position with
    | none => (text.toList.drop position, 0)
    | some found =>
      let before := (text.extract position found.first).toList
      let isEmpty : Bool := found.first = found.last
      if isEmpty && last = some found.first then
        if text.size ≤ found.first then (before, 0)
        else
          let (rest, count) := replaced regex text replace isAll fuel (found.first + 1) none
          (before ++ (text.extract found.first (found.first + 1)).toList ++ rest, count)
      else
        let inside := replace (text.extract found.first found.last).toList
        if !isAll then (before ++ inside ++ text.toList.drop found.last, 1)
        else
          let (rest, count) := replaced regex text replace isAll fuel found.last (some found.last)
          (before ++ inside ++ rest, count + 1)

end PluginBuild.Shell.Record
