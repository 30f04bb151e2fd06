import PluginBuild.Shell.Sources
import PluginBuild.Text.Numeral
/-!
# Sorting

The utilities that bring lines into order, and that find lines which follow their like.
-/

namespace PluginBuild.Shell

/-- How parts of lines are compared. -/
structure Comparison where
  numeric : Bool
  /-- Units like K and M count before numbers. -/
  units : Bool
  /-- Numbers in the text are compared by their values. -/
  versions : Bool
  ignoresCase : Bool
  skipsBlanks : Bool
  /-- Only letters, digits and blanks count. -/
  wordsOnly : Bool
  reversed : Bool

namespace Comparison

/-- The comparison of the bytes. -/
def plain : Comparison := ⟨false, false, false, false, false, false, false⟩

/-- The comparison that letters ask for, with the letters that are none. -/
def ofLetters (letters : List Char) (base : Comparison) : Comparison :=
  { numeric := base.numeric || letters.any (· ∈ ['n', 'g'])
    units := base.units || 'h' ∈ letters
    versions := base.versions || 'V' ∈ letters
    ignoresCase := base.ignoresCase || 'f' ∈ letters
    skipsBlanks := base.skipsBlanks || 'b' ∈ letters
    wordsOnly := base.wordsOnly || 'd' ∈ letters
    reversed := base.reversed || 'r' ∈ letters }

/-- Compares texts by their bytes. -/
def compareTexts : List Char → List Char → Ordering
  | [], [] => .eq
  | [], _ => .lt
  | _, [] => .gt
  | a :: s, b :: t => if a = b then compareTexts s t else if a.val < b.val then .lt else .gt

/-- The number at the start of a text, in units of a power of ten with a number of decimals. -/
def numberOf (s : List Char) : Int × Nat × List Char :=
  let s := s.dropWhile isSpace
  let isNegative := s.head? = some '-'
  let s := if isNegative then s.tail else s
  let whole := s.takeWhile Char.isDigit
  let rest := s.drop whole.length
  let places := if rest.head? = some '.' then rest.tail.takeWhile Char.isDigit else []
  let n : Int := (Text.digits? 10 (whole ++ places)).getD 0
  let rest := if places.isEmpty then rest else rest.drop (places.length + 1)
  (if isNegative then -n else n, places.length, rest)

/-- Compares the numbers at the start of texts. -/
def compareNumbers (s t : List Char) : Ordering :=
  let (a, i, _) := numberOf s
  let (b, j, _) := numberOf t
  compare (a * (Nat.pow 10 j : Nat)) (b * (Nat.pow 10 i : Nat))

/-- The power of a unit after a number. -/
def unitOf (s : List Char) : Nat :=
  let (_, _, rest) := numberOf s
  let unit? := rest.head?.bind fun c => ['K', 'M', 'G', 'T', 'P', 'E'].findIdx? (· = c.toUpper)
  unit?.elim 0 (· + 1)

/-- Compares numbers with units. -/
def compareUnits (s t : List Char) : Ordering :=
  let sign (s : List Char) : Int := (numberOf s).1.sign
  (compare (sign s) (sign t)).then
    ((if sign s < 0 then compare (unitOf t) (unitOf s) else compare (unitOf s) (unitOf t)).then
      (compareNumbers s t))

/-- Compares texts in which numbers count by their values. -/
def compareVersions : Nat → List Char → List Char → Ordering
  | 0, _, _ => .eq
  | fuel + 1, s, t =>
    let a := s.takeWhile (!·.isDigit)
    let b := t.takeWhile (!·.isDigit)
    let s := s.drop a.length
    let t := t.drop b.length
    let m := s.takeWhile Char.isDigit
    let n := t.takeWhile Char.isDigit
    (compareTexts a b).then
      ((compare ((Text.digits? 10 m).getD 0) ((Text.digits? 10 n).getD 0)).then
        (if s.isEmpty ∧ t.isEmpty then .eq
          else compareVersions fuel (s.drop m.length) (t.drop n.length)))

/-- Compares texts. -/
def compare (c : Comparison) (s t : List Char) : Ordering :=
  let brought (s : List Char) : List Char :=
    let s := if c.skipsBlanks then s.dropWhile isSpace else s
    let s := if c.wordsOnly then s.filter fun d => d.isAlphanum || isSpace d else s
    if c.ignoresCase then s.map Char.toUpper else s
  let order :=
    if c.units then compareUnits s t
    else if c.numeric then compareNumbers s t
    else if c.versions then compareVersions (s.length + t.length + 2) s t
    else compareTexts (brought s) (brought t)
  if c.reversed then order.swap else order

end Comparison

/-- A part of lines by which they are sorted: from a character of a field to a character of a
field. -/
structure SortKey where
  firstField : Nat
  firstCharacter : Nat
  /-- The last field, with its last character or zero for all of it. -/
  last : Option (Nat × Nat)
  comparison : Comparison

namespace SortKey

/-- The words of a line, each with the blanks before it. -/
def wordsWithBlanks : Nat → List Char → List (List Char)
  | 0, _ | _ + 1, [] => []
  | fuel + 1, s =>
    let blanks := s.takeWhile isSpace
    let word := (s.drop blanks.length).takeWhile (!isSpace ·)
    (blanks ++ word) :: wordsWithBlanks fuel (s.drop (blanks.length + word.length))

/-- The fields of a line. Without a separator each field starts with the blanks before it. -/
def fields (separator : Option Char) (line : List Char) : List (List Char) :=
  match separator with
  | some c => line.splitOn c
  | none => wordsWithBlanks (line.length + 1) line

/-- The part of a line that the key is. -/
def part (separator : Option Char) (key : SortKey) (line : List Char) : List Char :=
  let all := fields separator line
  let gap := if separator.isSome then 1 else 0
  let startOf (field : Nat) : Nat :=
    total ((all.take (field - 1)).map fun f => f.length + gap)
  let blanksAt (field : Nat) : Nat :=
    if key.comparison.skipsBlanks then (((all[field - 1]?).getD []).takeWhile isSpace).length
    else 0
  let first := startOf key.firstField + blanksAt key.firstField + (key.firstCharacter - 1)
  let stop :=
    match key.last with
    | none => line.length
    | some (field, 0) => startOf field + ((all[field - 1]?).getD []).length
    | some (field, character) => startOf field + blanksAt field + character
  (line.take stop).drop first

/-- The number at the start of a text, which is more than zero, and what follows it. -/
def readCount (start zero : String) (whole : String) (s : List Char) :
    Except String (Nat × List Char) :=
  match Text.digits? 10 (s.takeWhile Char.isDigit) with
  | none => .error (start ++ ": invalid count at start of '" ++ String.ofList s ++ "'")
  | some 0 => .error (zero ++ " is zero: invalid field specification '" ++ whole ++ "'")
  | some n => .ok (n, s.dropWhile Char.isDigit)

/-- The letters that tell how a key is compared. -/
def letters : List Char := ['b', 'd', 'f', 'g', 'h', 'i', 'M', 'n', 'R', 'r', 'V']

/-- The key that a text is. Without letters of its own it is compared as all else. -/
def read (usual : Comparison) (text : String) : Except String SortKey := do
  let (field, s) ← readCount "invalid number at field start" "field number" text text.toList
  let (character, s) ←
    match s with
    | '.' :: s => readCount "invalid number after '.'" "character offset" text s
    | s => pure (1, s)
  let first := s.takeWhile (· ∈ letters)
  let (last, s) ←
    match s.drop first.length with
    | ',' :: s => do
      let (field, s) ← readCount "invalid number after ','" "field number" text s
      match s with
      | '.' :: s =>
        match Text.digits? 10 (s.takeWhile Char.isDigit) with
        | none =>
          throw ("invalid number after '.': invalid count at start of '" ++ String.ofList s ++ "'")
        | some character => pure (some (field, character), s.dropWhile Char.isDigit)
      | s => pure (some (field, 0), s)
    | s => pure (none, s)
  let more := s.takeWhile (· ∈ letters)
  if more.length < s.length then
    throw ("stray character in field spec: invalid field specification '" ++ text ++ "'")
  let all := first ++ more
  let comparison := if all.isEmpty then usual else Comparison.ofLetters all .plain
  return ⟨field, character, last, comparison⟩

end SortKey

/-- Compares lines by keys, the first one first. -/
def compareByKeys (separator : Option Char) (keys : List SortKey) (a b : List Char) : Ordering :=
  keys.foldl (fun order key =>
    order.then (key.comparison.compare (key.part separator a) (key.part separator b))) .eq

/-- Lines of which each differs from the one before. -/
def withoutEqual (same : List Char → List Char → Bool) : List (List Char) → List (List Char)
  | [] => []
  | line :: rest =>
    match withoutEqual same rest with
    | [] => [line]
    | next :: more => if same line next then line :: more else line :: next :: more

/-- The first line that is not in order, with its number. -/
def disorder? (inOrder : List Char → List Char → Bool) (n : Nat) :
    List (List Char) → Option (Nat × List Char)
  | a :: b :: rest =>
    if inOrder a b then disorder? inOrder (n + 1) (b :: rest) else some (n + 1, b)
  | _ => none

/-- Sorts lines. -/
def sort (s : State) (arguments : List String) : State :=
  State.withArguments
    ⟨['n', 'g', 'h', 'V', 'f', 'b', 'd', 'r', 'u', 's', 'c', 'C', 'm', 'z', 'i', 'R', 'M'],
      ['k', 't', 'o', 'S', 'T'],
      [("numeric-sort", 'n'), ("general-numeric-sort", 'g'), ("human-numeric-sort", 'h'),
        ("version-sort", 'V'), ("ignore-case", 'f'), ("ignore-leading-blanks", 'b'),
        ("dictionary-order", 'd'), ("reverse", 'r'), ("unique", 'u'), ("stable", 's'),
        ("check", 'c'), ("merge", 'm'), ("key", 'k'), ("field-separator", 't'),
        ("output", 'o')], true⟩ 2
    (fun options s =>
      let letters := options.options.map (·.1)
      let usual := Comparison.ofLetters letters .plain
      let mark := ((options.value? 't').map String.toList).getD []
      if mark.length > 1 ∧ mark ≠ ['\\', '0'] then
        s.fault 2 ("multi-character tab '" ++ String.ofList mark ++ "'")
      else
        match (options.values 'k').mapM (SortKey.read usual) with
        | .error message => s.fault 2 message
        | .ok keys =>
          let (sources, good, s) := s.readSources
            (fun name failure =>
              (if failure = .isADirectory then "read failed: " else "cannot read: ") ++ name ++
                ": " ++ failure.reason) options.operands
          if !good then s.finish 2
          else
            let byKeys (a b : List Char) : Ordering :=
              if keys.isEmpty then usual.compare a b else compareByKeys mark.head? keys a b
            let isUnique := options.has 'u'
            let full (a b : List Char) : Ordering :=
              if isUnique ∨ options.has 's' then byKeys a b
              else (byKeys a b).then
                (if usual.reversed then Comparison.compareTexts b a
                  else Comparison.compareTexts a b)
            let ending : Char := if options.has 'z' then '\x00' else '\n'
            let text := sources.flatMap Source.text
            let lines := if options.has 'z' then
                (text.splitOn ending).filter (!·.isEmpty) else sources.flatMap fun source =>
                  linesOf source.text
            if options.has 'c' ∨ options.has 'C' then
              let name := options.operands.headD "-"
              match disorder? (fun a b => if isUnique then byKeys a b = .lt else byKeys a b ≠ .gt)
                1 lines with
              | none => s.finish 0
              | some (n, line) =>
                if options.has 'C' then s.finish 1
                else s.fault 1 (name ++ ":" ++ toString n ++ ": disorder: " ++ String.ofList line)
            else
              let inOrder (a b : List Char) : Bool := full a b ≠ .gt
              let sorted :=
                if options.has 'm' then
                  (sources.map fun source => linesOf source.text).foldl
                    (fun lines more => lines.merge more inOrder) []
                else lines.mergeSort inOrder
              let sorted := if isUnique then withoutEqual (fun a b => byKeys a b = .eq) sorted
                else sorted
              let text := sorted.flatMap (· ++ [ending])
              match options.value? 'o' with
              | none => (s.print text).finish 0
              | some name =>
                match s.save name text with
                | .ok s => s.finish 0
                | .error failure =>
                  s.fault 2 ("open failed: " ++ name ++ ": " ++ failure.reason))
    s arguments

/-- Lines with the number of those that follow each other and are the same. -/
def runs (same : List Char → List Char → Bool) : List (List Char) → List (List (List Char))
  | [] => []
  | line :: rest =>
    match runs same rest with
    | (next :: more) :: others =>
      if same line next then (line :: next :: more) :: others
      else [line] :: (next :: more) :: others
    | others => [line] :: others

/-- Prints lines that differ from the one before, or what is asked for. -/
def uniq (s : State) (arguments : List String) : State :=
  State.withArguments ⟨['c', 'd', 'D', 'u', 'i', 'z'], ['f', 's', 'w'],
    [("count", 'c'), ("repeated", 'd'), ("unique", 'u'), ("ignore-case", 'i'),
      ("skip-fields", 'f'), ("skip-chars", 's'), ("check-chars", 'w'), ("all-repeated", 'D')],
    true⟩ 1
    (fun options s =>
      match options.operands with
      | _ :: _ :: third :: _ => s.misused 1 ("extra operand '" ++ third ++ "'")
      | operands =>
        let number? (letter : Char) : Option Nat := (options.value? letter).bind wholeNumber?
        let (sources, good, s) := s.readSources plainly (operands.take 1)
        if !good then s.finish 1
        else
          let skipFields (line : List Char) : List Char :=
            Nat.repeat (fun line => (line.dropWhile isSpace).dropWhile (!isSpace ·))
              ((number? 'f').getD 0) line
          let seen (line : List Char) : List Char :=
            let line := (skipFields line).drop ((number? 's').getD 0)
            let line := (number? 'w').elim line line.take
            if options.has 'i' then line.map Char.toLower else line
          let groups := runs (fun a b => seen a = seen b)
            (sources.flatMap fun source => linesOf source.text)
          let groups := groups.filter fun group =>
            (!(options.has 'd' || options.has 'D') || group.length > 1) &&
              (!options.has 'u' || group.length = 1)
          let shown (group : List (List Char)) : List (List Char) :=
            if options.has 'D' then group
            else
              let count := (toString group.length).toList
              let label := if options.has 'c' then
                  List.replicate (7 - count.length) ' ' ++ count ++ [' '] else []
              [label ++ group.headD []]
          let text := joinLines (groups.flatMap shown)
          match operands[1]? with
          | none => (s.print text).finish 0
          | some name =>
            match s.save name text with
            | .ok s => s.finish 0
            | .error failure => s.fault 1 (plainly name failure))
    s arguments

end PluginBuild.Shell
