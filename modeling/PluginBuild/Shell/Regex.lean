import PluginBuild.Shell.Pattern
import PluginBuild.Text.Numeral
/-!
# Regular expressions

Expressions in the two notations of line tools, which differ in the operators that take a backslash.
Of the matches in a text the first one counts, and of those that start there the longest.
-/

namespace PluginBuild.Shell

/-- A place between the characters of words. -/
inductive WordPlace
  | start
  | stop
  | edge
  | inside
deriving DecidableEq

/-- A regular expression. -/
inductive Regex
  | empty
  | set (set : CharSet)
  /-- The start of the text. -/
  | start
  /-- The end of the text. -/
  | stop
  | word (place : WordPlace)
  | sequence (first second : Regex)
  | either (first second : Regex)
  /-- A number of repetitions. -/
  | repeated (least : Nat) (most : Option Nat) (body : Regex)
  /-- A group with its number. -/
  | group (number : Nat) (body : Regex)
  /-- What a group has matched. -/
  | same (number : Nat)
deriving DecidableEq

/-- How expressions are written and meant. -/
structure RegexStyle where
  /-- Whether operators have no backslash. -/
  extended : Bool
  ignoresCase : Bool
  /-- Whether repetitions need something that they repeat, if operators have no backslash. -/
  needsBody : Bool
  /-- Whether backslashes quote in sets. -/
  escapesInSets : Bool

namespace Regex

/-- The characters of words. -/
def wordSet : CharSet := ⟨false, [('a', 'z'), ('A', 'Z'), ('0', '9'), ('_', '_')]⟩

/-- The white space. -/
def spaceSet : CharSet := ⟨false, [('\t', '\r'), (' ', ' ')]⟩

/-- What follows an operator. -/
def afterOperator? (style : RegexStyle) (operator : Char) : List Char → Option (List Char)
  | c :: rest =>
    if style.extended then if c = operator then some rest else none
    else
      match rest with
      | d :: rest => if c = '\\' && d = operator then some rest else none
      | [] => none
  | [] => none

/-- Whether a branch of an expression ends inside of a number of groups. -/
def endsBranch (style : RegexStyle) (depth : Nat) (s : List Char) : Bool :=
  s.isEmpty || (afterOperator? style '|' s).isSome ||
    ((depth ≠ 0 || !style.extended) && (afterOperator? style ')' s).isSome)

/-- What is wrong with a set, in the words of the tools. -/
def setMessage : SetFault → String
  | .unclosed => "Invalid regular expression"
  | .unknownClass => "Invalid character class name"
  | .reversedRange => "Invalid range end"

/-- The expression of a set. -/
def ofSet (style : RegexStyle) (chars : CharSet) : Regex :=
  set (if style.ignoresCase then chars.withoutCase else chars)

/-- The expression of a character after a backslash, if the character has a meaning there. -/
def escape? (groups : Nat) (c : Char) : Except String (Option Regex) :=
  let negation (chars : CharSet) : CharSet := { chars with negated := true }
  match c with
  | 'w' => .ok (some (set wordSet))
  | 'W' => .ok (some (set (negation wordSet)))
  | 's' => .ok (some (set spaceSet))
  | 'S' => .ok (some (set (negation spaceSet)))
  | '<' => .ok (some (word .start))
  | '>' => .ok (some (word .stop))
  | 'b' => .ok (some (word .edge))
  | 'B' => .ok (some (word .inside))
  | c =>
    if '1' ≤ c ∧ c ≤ '9' then
      if c.toNat - '0'.toNat < groups then .ok (some (same (c.toNat - '0'.toNat)))
      else .error "Invalid back reference"
    else .ok none

/-- A single character or set, and what follows it. -/
def readSingle (style : RegexStyle) (first : Bool) (depth groups : Nat) (s : List Char) :
    Except String (Regex × List Char) :=
  match s with
  | '[' :: rest =>
    match CharSet.ofText? style.escapesInSets '^' rest with
    | .ok (chars, after) => .ok (ofSet style chars, after)
    | .error fault => .error (setMessage fault)
  | ['\\'] => .error "Trailing backslash"
  | '\\' :: c :: rest => do
    match ← escape? groups c with
    | some regex => return (regex, rest)
    | none => return (ofSet style (.single c), rest)
  | c :: rest =>
    if c = '.' then .ok (set .all, rest)
    else if c = '^' && (first || style.extended) then .ok (start, rest)
    else if c = '$' && (style.extended || endsBranch style depth rest) then .ok (stop, rest)
    else .ok (ofSet style (.single c), rest)
  | [] => .ok (empty, [])

/-- The bounds of repetitions after the brace that opens them, and what follows the brace that
closes them. -/
def readBounds? (style : RegexStyle) (s : List Char) :
    Option (Nat × Option Nat × List Char) := do
  let least := s.takeWhile Char.isDigit
  let rest := s.drop least.length
  let (most, rest) : Option Nat × List Char :=
    match rest with
    | ',' :: rest =>
      (Text.digits? 10 (rest.takeWhile Char.isDigit), rest.dropWhile Char.isDigit)
    | _ => (Text.digits? 10 least, rest)
  if s.head?.all fun c => !c.isDigit && c ≠ ',' then none
  let rest ← afterOperator? style '\x7d' rest
  return ((Text.digits? 10 least).getD 0, most, rest)

/-- The repetitions after a part of an expression. -/
def readRepeats (style : RegexStyle) (body : Regex) :
    Nat → List Char → Except String (Regex × List Char)
  | 0, s => .ok (body, s)
  | fuel + 1, s =>
    if s.head? = some '*' then readRepeats style (repeated 0 none body) fuel s.tail
    else
      match afterOperator? style '+' s, afterOperator? style '?' s,
        afterOperator? style '\x7b' s with
      | some rest, _, _ => readRepeats style (repeated 1 none body) fuel rest
      | none, some rest, _ => readRepeats style (repeated 0 (some 1) body) fuel rest
      | none, none, some rest =>
        match readBounds? style rest with
        | some (least, most, rest) =>
          if most.any (· < least) then .error "Invalid content of \\\x7b\\\x7d"
          else readRepeats style (repeated least most body) fuel rest
        | none => if style.extended then .ok (body, s) else .error "Unmatched \\\x7b"
      | none, none, none => .ok (body, s)

/-- Whether repetitions come where there is nothing that they might repeat. -/
def lacksBody (style : RegexStyle) (s : List Char) : Bool :=
  style.extended && (s.head?.any fun c => c ∈ ['*', '+', '?', '\x7b'])

/-- Whether repetitions may follow a part of an expression. -/
def canRepeat (style : RegexStyle) (part : Regex) : Bool :=
  (style.extended && !style.needsBody) || part ≠ start

mutual

/-- The alternatives of an expression inside of a number of groups, with the number of the next
group. -/
def readAlternatives (style : RegexStyle) :
    Nat → Nat → Nat → List Char → Except String (Regex × List Char × Nat)
  | 0, _, _, _ => .error "Regular expression too big"
  | fuel + 1, depth, groups, s => do
    let (first, rest, groups) ← readBranch style fuel true depth groups s
    match afterOperator? style '|' rest with
    | some rest =>
      let (second, rest, groups) ← readAlternatives style fuel depth groups rest
      return (either first second, rest, groups)
    | none => return (first, rest, groups)

/-- The parts of a branch, one after the other. -/
def readBranch (style : RegexStyle) :
    Nat → Bool → Nat → Nat → List Char → Except String (Regex × List Char × Nat)
  | 0, _, _, _, _ => .error "Regular expression too big"
  | fuel + 1, first, depth, groups, s => do
    if endsBranch style depth s then return (empty, s, groups)
    let repeatsNothing := first && lacksBody style s
    if repeatsNothing && style.needsBody then throw "Invalid preceding regular expression"
    let (part, rest, groups) ←
      if repeatsNothing then pure (empty, s, groups) else match afterOperator? style '(' s with
      | some rest => do
        let (body, rest, next) ← readAlternatives style fuel (depth + 1) (groups + 1) rest
        match afterOperator? style ')' rest with
        | some rest => pure (group groups body, rest, next)
        | none => throw "Unmatched ( or \\("
      | none => do
        let (part, rest) ← readSingle style first depth groups s
        pure (part, rest, groups)
    let (part, rest) ←
      if canRepeat style part then readRepeats style part rest.length rest else pure (part, rest)
    let (second, rest, groups) ← readBranch style fuel (part = start) depth groups rest
    return (sequence part second, rest, groups)

end

/-- The expression that a text is. -/
def ofText? (style : RegexStyle) (s : List Char) : Except String Regex := do
  match ← readAlternatives style (2 * s.length + 4) 0 1 s with
  | (regex, [], _) => return regex
  | _ => throw "Unmatched ) or \\)"

/-- Whether a place in a text is one of a kind. -/
def WordPlace.isAt (place : WordPlace) (text : Array Char) (position : Nat) : Bool :=
  let isWord (index : Nat) : Bool := (text[index]?).any wordSet.contains
  let before := position ≠ 0 && isWord (position - 1)
  let after := isWord position
  match place with
  | .start => !before && after
  | .stop => before && !after
  | .edge => before != after
  | .inside => before == after

/-- Positions without repetitions. -/
def addPositions (seen : List Nat) : List Nat → List Nat
  | [] => seen
  | position :: rest =>
    addPositions (if position ∈ seen then seen else position :: seen) rest

/-- The positions that a step leads to, if it is taken any number of times but at most `most`
times. -/
def closure (step : List Nat → List Nat) (most : Option Nat) :
    Nat → List Nat → List Nat → List Nat
  | 0, seen, _ => seen
  | fuel + 1, seen, added =>
    if most = some 0 ∨ added.isEmpty then seen
    else
      let more := (addPositions [] (step added)).filter (· ∉ seen)
      closure step (most.map (· - 1)) fuel (more ++ seen) more

/-- The positions where matches end that start at some positions of a text. What groups have to
match again may be anything. -/
def ends (text : Array Char) : Regex → List Nat → List Nat
  | empty, starts => starts
  | set chars, starts => (starts.filter fun p => (text[p]?).any chars.contains).map (· + 1)
  | start, starts => starts.filter (· = 0)
  | stop, starts => starts.filter (· = text.size)
  | word place, starts => starts.filter (WordPlace.isAt place text)
  | sequence first second, starts => ends text second (ends text first starts)
  | either first second, starts => addPositions (ends text first starts) (ends text second starts)
  | repeated least most body, starts =>
    let after := Nat.repeat (fun positions => addPositions [] (ends text body positions)) least
      starts
    closure (ends text body) (most.map (· - least)) (text.size + 1) after after
  | group _ body, starts => ends text body starts
  | same _, starts =>
    starts.flatMap fun p => (List.range (text.size + 1 - p)).map (p + ·)

/-- The place that a match has come to, and what the groups so far have matched. -/
structure Place where
  position : Nat
  /-- The groups with the positions where their matches start and end. -/
  groups : List (Nat × Nat × Nat)

/-- Matches an expression at a place and goes on with `k`. `fuel` bounds how deep that goes. -/
def matchAt (text : Array Char) :
    Nat → Regex → Place → (Place → Option Place) → Option Place
  | 0, _, _, _ => none
  | fuel + 1, regex, p, k =>
    match regex with
    | empty => k p
    | set chars =>
      if (text[p.position]?).any chars.contains then k { p with position := p.position + 1 }
      else none
    | start => if p.position = 0 then k p else none
    | stop => if p.position = text.size then k p else none
    | word place => if WordPlace.isAt place text p.position then k p else none
    | sequence first second => matchAt text fuel first p fun p => matchAt text fuel second p k
    | either first second =>
      match matchAt text fuel first p k with
      | some p => some p
      | none => matchAt text fuel second p k
    | repeated least most body =>
      let more := if most = some 0 then none else
        matchAt text fuel body p fun q =>
          if q.position = p.position ∧ least = 0 then none
          else matchAt text fuel (repeated (least - 1) (most.map (· - 1)) body) q k
      match more with
      | some p => some p
      | none => if least = 0 then k p else none
    | group number body =>
      matchAt text fuel body p fun q =>
        k { q with groups := (number, p.position, q.position) :: q.groups }
    | same number =>
      match p.groups.lookup number with
      | none => none
      | some (first, last) =>
        let stop := p.position + (last - first)
        if (text.extract first last) = text.extract p.position stop ∧ stop ≤ text.size then
          k { p with position := stop }
        else none

/-- The size of an expression. -/
def size : Regex → Nat
  | empty | set _ | start | stop | word _ | same _ => 1
  | sequence first second | either first second => first.size + second.size + 1
  | repeated least most body => (max least (most.getD 0) + 1) * (body.size + 1)
  | group _ body => body.size + 1

/-- Whether an expression has groups. -/
def hasGroups : Regex → Bool
  | sequence first second | either first second => first.hasGroups || second.hasGroups
  | repeated _ _ body => body.hasGroups
  | group .. => true
  | _ => false

/-- Whether an expression matches again what a group has matched. -/
def refersBack : Regex → Bool
  | sequence first second | either first second => first.refersBack || second.refersBack
  | repeated _ _ body | group _ body => body.refersBack
  | same _ => true
  | _ => false

/-- The match that starts at a position. -/
def matchFrom? (regex : Regex) (text : Array Char) (position : Nat) : Option Place :=
  let fuel := (regex.size + 2) * (text.size + 2)
  match (regex.ends text [position]).max? with
  | none => none
  | some longest =>
    if regex.refersBack then matchAt text fuel regex ⟨position, []⟩ some
    else if regex.hasGroups then
      matchAt text fuel regex ⟨position, []⟩ fun p => if p.position = longest then some p else none
    else some ⟨longest, []⟩

/-- A match in a text. -/
structure Found where
  first : Nat
  last : Nat
  groups : List (Nat × Nat × Nat)

/-- The first match in a text from a position on, of `count` positions. -/
def findFrom? (regex : Regex) (text : Array Char) : Nat → Nat → Option Found
  | 0, _ => none
  | count + 1, position =>
    match regex.matchFrom? text position with
    | some p => some ⟨position, p.position, p.groups⟩
    | none => findFrom? regex text count (position + 1)

/-- The first match in a text from a position on. -/
def find? (regex : Regex) (text : Array Char) (position : Nat) : Option Found :=
  regex.findFrom? text (text.size + 1 - position) position

/-- Whether an expression matches somewhere in a line. -/
def isIn (regex : Regex) (line : List Char) : Bool :=
  let text := line.toArray
  if regex.refersBack then (regex.find? text 0).isSome
  else !(regex.ends text (List.range (text.size + 1))).isEmpty

end Regex

end PluginBuild.Shell
