import PluginBuild.Json.Value
import PluginBuild.Text.Numeral
/-!
# Tokens of JSON text

The marks, strings, numbers and words that a JSON text is made of.
-/

namespace PluginBuild.Json

/-- A token of JSON text. -/
inductive Token
  | openArray
  | closeArray
  | openObject
  | closeObject
  | comma
  | colon
  /-- A string, or nothing in place of its text where a surrogate in it has no partner. -/
  | string (value : Option String)
  /-- A number or one of the words `null`, `true` and `false`. -/
  | scalar (value : Json)

/-- The characters of a string read so far. -/
structure StringSoFar where
  /-- The characters, last one first. -/
  chars : List Char
  /-- A high surrogate that waits for its partner. -/
  high : Option Nat
  /-- Whether a surrogate before had no partner. -/
  broken : Bool

namespace StringSoFar

/-- The string of which nothing has been read. -/
def empty : StringSoFar := ⟨[], none, false⟩

/-- The string with a character more. -/
def push (s : StringSoFar) (c : Char) : StringSoFar :=
  ⟨c :: s.chars, none, s.broken || s.high.isSome⟩

/-- The string with a code unit of UTF-16 more. -/
def pushUnit (s : StringSoFar) (unit : Nat) : StringSoFar :=
  if 0xD800 ≤ unit ∧ unit < 0xDC00 then ⟨s.chars, some unit, s.broken || s.high.isSome⟩
  else if 0xDC00 ≤ unit ∧ unit < 0xE000 then
    match s.high with
    | some high =>
      ⟨Char.ofNat (0x10000 + (high - 0xD800) * 0x400 + (unit - 0xDC00)) :: s.chars, none, s.broken⟩
    | none => { s with broken := true }
  else s.push (Char.ofNat unit)

/-- The string when its closing quote has been read. -/
def close (s : StringSoFar) : Option String :=
  if s.broken || s.high.isSome then none else some (String.ofList s.chars.reverse)

end StringSoFar

/-- The character that a letter after a backslash stands for. -/
def escaped? : Char → Option Char
  | '"' => some '"'
  | '\\' => some '\\'
  | '/' => some '/'
  | 'b' => some '\x08'
  | 'f' => some '\x0c'
  | 'n' => some '\n'
  | 'r' => some '\r'
  | 't' => some '\t'
  | _ => none

/-- The string that goes on here, and the text after its closing quote. -/
def stringFrom (s : StringSoFar) : List Char → Option (Option String × List Char)
  | [] => none
  | c :: rest =>
    if c = '"' then some (s.close, rest)
    else if c = '\\' then
      match rest with
      | [] => none
      | e :: rest =>
        if e = 'u' then
          match rest with
          | a :: b :: c :: d :: rest =>
            match Text.digits? 16 [a, b, c, d] with
            | some unit => stringFrom (s.pushUnit unit) rest
            | none => none
          | _ => none
        else match escaped? e with
          | some c => stringFrom (s.push c) rest
          | none => none
    else if c.toNat < 0x20 then none
    else stringFrom (s.push c) rest

/-- Whether a character can stand in a number. -/
def isNumberChar (c : Char) : Bool :=
  c.isDigit || c == '-' || c == '+' || c == '.' || c == 'e' || c == 'E'

/-- Whether one or more digits and nothing else make up the text. -/
def areDigits (s : List Char) : Bool := !s.isEmpty && s.all Char.isDigit

/-- Whether a text is nothing or the exponent of a number. -/
def isExponent : List Char → Bool
  | [] => true
  | c :: rest =>
    (c == 'e' || c == 'E') &&
      areDigits (if rest.head? = some '+' ∨ rest.head? = some '-' then rest.drop 1 else rest)

/-- Whether a text is nothing or what follows the whole part of a number. -/
def isFraction : List Char → Bool
  | [] => true
  | c :: rest =>
    if c = '.' then
      !(rest.takeWhile Char.isDigit).isEmpty && isExponent (rest.dropWhile Char.isDigit)
    else isExponent (c :: rest)

/-- The number that a text is. -/
def number? (s : List Char) : Option Json := do
  let negative := s.head? == some '-'
  let unsigned := if negative then s.drop 1 else s
  let whole := unsigned.takeWhile Char.isDigit
  let fraction := unsigned.dropWhile Char.isDigit
  guard (whole.length == 1 || whole.head? != some '0')
  guard (isFraction fraction)
  let magnitude ← Text.digits? 10 whole
  if !fraction.isEmpty || (negative && magnitude == 0) then return .real
  else return .integer (if negative then -(magnitude : Int) else magnitude)

/-- The value that a word is. -/
def word? (s : List Char) : Option Json :=
  if s = "null".toList then some .null
  else if s = "true".toList then some (.bool true)
  else if s = "false".toList then some (.bool false)
  else none

/-- The token that starts with a character that is not blank, and the text after it. Characters
that can stand in a number, and letters, never part two tokens that may stand side by side. -/
def takeToken? (c : Char) (rest : List Char) : Option (Token × List Char) :=
  if c = '[' then some (.openArray, rest)
  else if c = ']' then some (.closeArray, rest)
  else if c = '\x7b' then some (.openObject, rest)
  else if c = '\x7d' then some (.closeObject, rest)
  else if c = ',' then some (.comma, rest)
  else if c = ':' then some (.colon, rest)
  else if c = '"' then (stringFrom .empty rest).map fun r => (.string r.1, r.2)
  else if c.isAlpha then
    (word? (c :: rest.takeWhile Char.isAlpha)).map (.scalar ·, rest.dropWhile Char.isAlpha)
  else
    (number? (c :: rest.takeWhile isNumberChar)).map (.scalar ·, rest.dropWhile isNumberChar)

/-- Whether a character may stand between tokens. -/
def isSpace (c : Char) : Bool := c == ' ' || c == '\t' || c == '\n' || c == '\r'

/-- The text after a string is no longer than the text. -/
theorem length_stringFrom_le {s : StringSoFar} {t : List Char} {r : Option String × List Char}
    (h : stringFrom s t = some r) : r.2.length ≤ t.length := by
  fun_induction stringFrom s t with
  | case1 => simp at h
  | case2 => simp only [Option.some.injEq] at h; subst h; simp
  | case3 => simp at h
  | case4 s a b c d rest unit _ _ ih => have := ih h; simp only [List.length_cons]; omega
  | case5 => simp at h
  | case6 => simp at h
  | case7 s e rest _ c _ _ ih => have := ih h; simp only [List.length_cons]; omega
  | case8 => simp at h
  | case9 => simp at h
  | case10 s c rest _ _ _ ih => have := ih h; simp only [List.length_cons]; omega

/-- The text after a token is no longer than the text after the token's first character. -/
theorem length_takeToken_le {c : Char} {rest : List Char} {r : Token × List Char}
    (h : takeToken? c rest = some r) : r.2.length ≤ rest.length := by
  unfold takeToken? at h
  repeat' split at h
  all_goals simp only [Option.some.injEq, Option.map_eq_some_iff] at h
  iterate 6 subst h; exact Nat.le_refl _
  · obtain ⟨a, ha, rfl⟩ := h; exact length_stringFrom_le ha
  · obtain ⟨a, _, rfl⟩ := h; exact (List.dropWhile_sublist _).length_le
  · obtain ⟨a, _, rfl⟩ := h; exact (List.dropWhile_sublist _).length_le

/-- The tokens of a text. -/
def tokens? (s : List Char) : Option (List Token) :=
  match s with
  | [] => some []
  | c :: rest =>
    if isSpace c then tokens? rest
    else match _h : takeToken? c rest with
      | none => none
      | some r => (tokens? r.2).map (r.1 :: ·)
termination_by s.length
decreasing_by
  · simp
  · exact Nat.lt_succ_of_le (length_takeToken_le _h)

end PluginBuild.Json
