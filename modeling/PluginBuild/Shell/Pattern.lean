/-!
# Patterns

The patterns of a shell, with stars for any text and question marks for any character. A character
that is quoted stands for itself.
-/

namespace PluginBuild.Shell

/-- A set of characters as ranges. -/
structure CharSet where
  negated : Bool
  ranges : List (Char × Char)
deriving DecidableEq

/-- What is wrong with a set. -/
inductive SetFault
  | unclosed
  | unknownClass
  | reversedRange
deriving DecidableEq

namespace CharSet

/-- Whether a character is in a set. -/
def contains (set : CharSet) (c : Char) : Bool :=
  set.ranges.any (fun range => range.1.val ≤ c.val && c.val ≤ range.2.val) != set.negated

/-- All characters. -/
def all : CharSet := ⟨true, []⟩

/-- The set of one character. -/
def single (c : Char) : CharSet := ⟨false, [(c, c)]⟩

/-- The ranges of the classes with a name. -/
def classRanges : String → List (Char × Char)
  | "alpha" => [('a', 'z'), ('A', 'Z')]
  | "digit" => [('0', '9')]
  | "alnum" => [('a', 'z'), ('A', 'Z'), ('0', '9')]
  | "lower" => [('a', 'z')]
  | "upper" => [('A', 'Z')]
  | "space" => [('\t', '\r'), (' ', ' ')]
  | "blank" => [('\t', '\t'), (' ', ' ')]
  | "xdigit" => [('0', '9'), ('a', 'f'), ('A', 'F')]
  | "punct" => [('!', '/'), (':', '@'), ('[', '`'), ('\x7b', '~')]
  | "print" => [(' ', '~')]
  | "graph" => [('!', '~')]
  | "cntrl" => [('\x00', '\x1f'), ('\x7f', '\x7f')]
  | _ => []

/-- The character at the start of a set, whether a backslash quotes it, and what follows. -/
def memberAt (escapes : Bool) : List Char → Option (Char × Bool × List Char)
  | [] => none
  | c :: rest =>
    match rest with
    | d :: more => some (if c = '\\' ∧ escapes then (d, true, more) else (c, false, rest))
    | [] => some (c, false, [])

/-- The ranges up to the bracket that closes a set, and what follows it. The bracket at the very
start is in the set. With `escapes` backslashes quote. -/
def rangesFrom (escapes : Bool) :
    Nat → Bool → List Char → Except SetFault (List (Char × Char) × List Char)
  | 0, _, _ => .error .unclosed
  | fuel + 1, first, s =>
    match s with
    | '[' :: ':' :: rest =>
      let ranges := classRanges (String.ofList (rest.takeWhile (· ≠ ':')))
      if ranges.isEmpty then .error .unknownClass
      else (rangesFrom escapes fuel false ((rest.dropWhile (· ≠ ':')).drop 2)).map
        fun (more, after) => (ranges ++ more, after)
    | s =>
      match memberAt escapes s with
      | none => .error .unclosed
      | some (a, quoted, rest) =>
        let single := (rangesFrom escapes fuel false rest).map fun (ranges, after) =>
          ((a, a) :: ranges, after)
        if a = ']' ∧ !first ∧ !quoted then .ok ([], rest)
        else
          match rest with
          | '-' :: more =>
            match memberAt escapes more with
            | none => single
            | some (b, isQuoted, rest) =>
              if b = ']' ∧ !isQuoted then .ok ([(a, a), ('-', '-')], rest)
              else if b.val < a.val then .error .reversedRange
              else (rangesFrom escapes fuel false rest).map fun (ranges, after) =>
                ((a, b) :: ranges, after)
          | _ => single

/-- The set after an opening bracket, and what follows it. The character `negation` at its start
negates the set. With `escapes` backslashes quote. -/
def ofText? (escapes : Bool) (negation : Char) (s : List Char) :
    Except SetFault (CharSet × List Char) :=
  let negated := s.head? = some negation
  (rangesFrom escapes (s.length + 1) true (if negated then s.tail else s)).map
    fun (ranges, after) => (⟨negated, ranges⟩, after)

/-- The set with the letters of both cases for those that are in it. -/
def withoutCase (set : CharSet) : CharSet :=
  let part (low high shift : Nat) (range : Char × Char) : Option (Char × Char) :=
    let a := max range.1.toNat low
    let b := min range.2.toNat high
    if a ≤ b then some (Char.ofNat (a + shift - 32), Char.ofNat (b + shift - 32)) else none
  { set with
    ranges := set.ranges ++ set.ranges.filterMap (part 65 90 64) ++
      set.ranges.filterMap (part 97 122 0) }

end CharSet

/-- A part of a pattern. -/
inductive PatternItem
  | star
  | set (set : CharSet)
deriving DecidableEq

/-- A pattern. -/
abbrev Pattern := List PatternItem

/-- Characters of which some are quoted. -/
abbrev Field := List (Char × Bool)

/-- The pattern that characters stand for. `fuel` bounds their number. -/
def Pattern.ofFieldFrom : Nat → Field → Pattern
  | 0, _ | _ + 1, [] => []
  | fuel + 1, (c, quoted) :: rest =>
    if quoted then .set (.single c) :: ofFieldFrom fuel rest
    else if c = '*' then .star :: ofFieldFrom fuel rest
    else if c = '?' then .set .all :: ofFieldFrom fuel rest
    else if c = '[' then
      match CharSet.ofText? false '!' (rest.map (·.1)) with
      | .ok (set, after) => .set set :: ofFieldFrom fuel (rest.drop (rest.length - after.length))
      | .error _ => .set (.single c) :: ofFieldFrom fuel rest
    else .set (.single c) :: ofFieldFrom fuel rest

/-- The pattern that characters stand for. -/
def Pattern.ofField (field : Field) : Pattern := ofFieldFrom field.length field

/-- Whether a field has a character that makes it a pattern. -/
def Field.isPattern (field : Field) : Bool :=
  field.any fun (c, quoted) => !quoted && (c = '*' || c = '?' || c = '[')

/-- Whether a pattern fits all of a text. -/
def Pattern.fits : Pattern → List Char → Bool
  | [], s => s.isEmpty
  | .set set :: rest, s =>
    match s with
    | [] => false
    | c :: s => set.contains c && fits rest s
  | .star :: rest, s =>
    fits rest s ||
      match s with
      | [] => false
      | _ :: s => fits (.star :: rest) s
termination_by pattern s => pattern.length + s.length

/-- A text without the shortest or the longest start that a pattern fits. -/
def Pattern.dropStart (longest : Bool) (pattern : Pattern) (s : List Char) : List Char :=
  let lengths := List.range (s.length + 1)
  let lengths := if longest then lengths.reverse else lengths
  match lengths.find? fun n => pattern.fits (s.take n) with
  | some n => s.drop n
  | none => s

/-- A text without the shortest or the longest end that a pattern fits. -/
def Pattern.dropEnd (longest : Bool) (pattern : Pattern) (s : List Char) : List Char :=
  let lengths := List.range (s.length + 1)
  let lengths := if longest then lengths else lengths.reverse
  match lengths.find? fun n => pattern.fits (s.drop n) with
  | some n => s.take n
  | none => s

end PluginBuild.Shell
