import PluginBuild.Shell.Copying
import PluginBuild.Shell.Pattern
import PluginBuild.Shell.Printing
/-!
# Column tools

The utilities that change characters of a text, or pick, join and number parts of its lines.
-/

namespace PluginBuild.Shell

/-- The characters of a text with escapes, with those that were escaped marked. -/
def unescaped : Nat → List Char → List (Char × Bool)
  | 0, _ | _ + 1, [] => []
  | _ + 1, ['\\'] => [('\\', false)]
  | fuel + 1, c :: rest =>
    if c ≠ '\\' then (c, false) :: unescaped fuel rest
    else
      match escape? rest with
      | some (d, after) => (d, true) :: unescaped fuel after
      | none => (rest.headD c, true) :: unescaped fuel rest.tail

/-- The characters between two, with them. -/
def charactersBetween (a b : Char) : List Char :=
  (List.range (b.toNat + 1 - a.toNat)).map fun i => Char.ofNat (a.toNat + i)

/-- A part of a set of characters in order. -/
inductive SetPart
  | characters (characters : List Char)
  /-- A character a number of times, or as often as there is place. -/
  | fill (c : Char) (count : Option Nat)

namespace SetPart

/-- The part in brackets at the start of a text, and what follows it. -/
def inBrackets? (s : List (Char × Bool)) : Option (SetPart × List (Char × Bool)) :=
  match s with
  | ('[', false) :: (':', false) :: rest =>
    let name := (rest.takeWhile (·.1 ≠ ':')).map (·.1)
    let after := rest.drop name.length
    let ranges := CharSet.classRanges (String.ofList name)
    if after.take 2 = [(':', false), (']', false)] ∧ !ranges.isEmpty then
      let inClass (c : Char) : Bool := (CharSet.mk false ranges).contains c
      some (characters ((charactersBetween '\x00' '\x7f').filter inClass), after.drop 2)
    else none
  | ('[', false) :: ('=', false) :: (c, _) :: ('=', false) :: (']', false) :: rest =>
    some (characters [c], rest)
  | ('[', false) :: (c, _) :: ('*', false) :: rest =>
    let digits := (rest.takeWhile (·.1.isDigit)).map (·.1)
    let after := rest.drop digits.length
    if after.head? = some (']', false) then
      let count := Text.digits? (if digits.head? = some '0' then 8 else 10) digits
      some (fill c (count.filter (· ≠ 0)), after.tail)
    else none
  | _ => none

/-- The parts of a text. -/
def read : Nat → List (Char × Bool) → Except String (List SetPart)
  | 0, _ | _ + 1, [] => .ok []
  | fuel + 1, (c, quoted) :: rest =>
    match inBrackets? ((c, quoted) :: rest) with
    | some (part, rest) => do return part :: (← read fuel rest)
    | none =>
      match rest with
      | ('-', false) :: (d, _) :: rest =>
        if d.toNat < c.toNat then
          .error ("range-endpoints of '" ++ String.ofList [c, '-', d] ++
            "' are in reverse collating sequence order")
        else do return characters (charactersBetween c d) :: (← read fuel rest)
      | _ => do return characters [c] :: (← read fuel rest)

/-- The characters of parts, with places filled up to a number of characters. -/
def expand (size : Nat) (parts : List SetPart) : List Char :=
  let known := total (parts.map fun
    | characters cs => cs.length
    | fill _ count => count.getD 0)
  parts.flatMap fun
    | characters cs => cs
    | fill c count => List.replicate (count.getD (size - known)) c

/-- The characters of a text. -/
def ofText (size : Nat) (text : String) : Except String (List Char) := do
  let parts ← read (text.length + 1) (unescaped (text.length + 1) text.toList)
  return expand size parts

end SetPart

/-- A text in which no character of a set follows itself. -/
def withoutRepeats (isIn : Char → Bool) : List Char → List Char
  | [] => []
  | [c] => [c]
  | c :: d :: rest =>
    if c = d ∧ isIn c then withoutRepeats isIn (d :: rest)
    else c :: withoutRepeats isIn (d :: rest)

/-- What has to be said about the number of sets, if it is wrong. -/
def setsFault? (deletes squeezes : Bool) (sets : List String) : Option (String × List String) :=
  let extra (name : String) : String := "extra operand '" ++ name ++ "'"
  match sets with
  | [] => some ("missing operand", [])
  | [first] =>
    if deletes && squeezes then
      some ("missing operand after '" ++ first ++ "'",
        ["Two strings must be given when both deleting and squeezing repeats."])
    else if !deletes && !squeezes then
      some ("missing operand after '" ++ first ++ "'",
        ["Two strings must be given when translating."])
    else none
  | [_, second] =>
    if deletes && !squeezes then
      some (extra second,
        ["Only one string may be given when deleting without squeezing repeats."])
    else none
  | _ :: _ :: third :: _ => some (extra third, [])

/-- Changes, drops or squeezes the characters of sets. -/
def tr (s : State) (arguments : List String) : State :=
  State.withArguments ⟨['c', 'C', 'd', 's', 't'], [],
    [("complement", 'c'), ("delete", 'd'), ("squeeze-repeats", 's'), ("truncate-set1", 't')],
    false⟩ 1
    (fun options s =>
      let deletes := options.has 'd'
      let squeezes := options.has 's'
      match setsFault? deletes squeezes options.operands with
      | some (message, more) =>
        (more.foldl (fun s line => s.complain line) (s.fault 1 message)).complain
          ("Try '" ++ s.name ++ " --help' for more information.")
      | none =>
        let first := options.operands.headD ""
        let sets : Except String (List Char × List Char) := do
          let set ← SetPart.ofText 0 first
          let set := if options.has 'c' ∨ options.has 'C' then
              (charactersBetween '\x00' '\xff').filter (· ∉ set) else set
          return (set, ← SetPart.ofText set.length ((options.operands[1]?).getD ""))
        match sets with
        | .error message => s.fault 1 message
        | .ok (set, images) =>
          let translates := !deletes && options.operands.length = 2
          if translates ∧ images.isEmpty ∧ !options.has 't' then
            s.fault 1 "when not truncating set1, string2 must be non-empty"
          else
            let (text, s) := s.takeInput
            let image (c : Char) : Char :=
              match set.reverse.findIdx? (· = c) with
              | some i =>
                let index := set.length - 1 - i
                if options.has 't' ∧ images.length ≤ index then c
                else ((images[index]?).or images.getLast?).getD c
              | none => c
            let table := (charactersBetween '\x00' '\xff').toArray.map image
            let text :=
              if deletes then text.filter (· ∉ set)
              else if translates then text.map fun c => (table[c.toNat]?).getD c
              else text
            let squeezed := if options.operands.length = 2 then images else set
            (s.print (if squeezes then withoutRepeats (· ∈ squeezed) text else text)).finish 0)
    s arguments

/-- Positions from one to another, or to the end. -/
abbrev Selection := List (Nat × Option Nat)

namespace Selection

/-- Whether a position is selected. -/
def contains (selection : Selection) (position : Nat) : Bool :=
  selection.any fun (first, last) => first ≤ position && last.all (position ≤ ·)

/-- The positions that a text selects, in fields or in bytes. -/
def read (fields : Bool) (text : List Char) : Except String Selection :=
  (text.splitOnP fun c => c = ',' || isSpace c).mapM fun range => do
    let invalid : Except String Nat :=
      .error ("invalid " ++ (if fields then "field value" else "byte/character position") ++
        " '" ++ String.ofList range ++ "'")
    let number (digits : List Char) : Except String Nat := do
      match Text.digits? 10 digits with
      | some 0 => throw (if fields then "fields are numbered from 1"
          else "byte/character positions are numbered from 1")
      | some n => return n
      | none => invalid
    match range.splitOn '-' with
    | [[], []] => throw "invalid range with no endpoint: -"
    | [first] =>
      let n ← number first
      return (n, some n)
    | [first, []] => return (← number first, none)
    | [[], last] => return (1, some (← number last))
    | [first, last] =>
      let a ← number first
      let b ← number last
      if b < a then throw "invalid decreasing range" else return (a, some b)
    | _ => do return (← invalid, none)

end Selection

/-- The characters that the escapes of delimiters stand for. -/
def delimiters (text : String) : List Char :=
  (unescaped (text.length + 1) text.toList).map (·.1)

/-- Prints the selected parts of lines. -/
def cut (s : State) (arguments : List String) : State :=
  State.withArguments ⟨['s', 'n', 'C'], ['b', 'c', 'd', 'f', 'O'],
    [("bytes", 'b'), ("characters", 'c'), ("delimiter", 'd'), ("fields", 'f'),
      ("only-delimited", 's'), ("complement", 'C'), ("output-delimiter", 'O')], true⟩ 1
    (fun options s =>
      let lists := options.options.filter fun option => option.1 ∈ ['b', 'c', 'f']
      match lists with
      | [] => s.misused 1 "you must specify a list of bytes, characters, or fields"
      | _ :: _ :: _ => s.misused 1 "only one list may be specified"
      | [(letter, list)] =>
        let fields := letter = 'f'
        let delimiter := (options.value? 'd').getD "\t"
        if !fields ∧ (options.value? 'd').isSome then
          s.misused 1 "an input delimiter may be specified only when operating on fields"
        else if delimiter.length > 1 then s.misused 1 "the delimiter must be a single character"
        else
          match Selection.read fields list.toList with
          | .error message => s.misused 1 message
          | .ok selection =>
            let (sources, good, s) := s.readSources plainly options.operands
            let mark := delimiter.toList.headD '\x00'
            let between := (options.value? 'O').elim [mark] String.toList
            let isKept (i : Nat) : Bool := selection.contains (i + 1) != options.has 'C'
            let ofLine (line : List Char) : List (List Char) :=
              if !fields then [((line.zipIdx).filter fun entry => isKept entry.2).map (·.1)]
              else if mark ∉ line then if options.has 's' then [] else [line]
              else
                [between.intercalate
                  (((line.splitOn mark).zipIdx.filter fun entry => isKept entry.2).map (·.1))]
            (s.print (joinLines ((sources.flatMap fun source => linesOf source.text).flatMap
              ofLine))).finish (if good then 0 else 1))
    s arguments

/-- Fields in one line, with delimiters between them in turn. -/
def joinedInTurn (marks : List Char) (fields : List (List Char)) : List Char :=
  (fields.zipIdx).flatMap fun (field, i) =>
    field ++
      if i + 1 < fields.length then
        ((marks[i % marks.length]?).filter (· ≠ '\x00')).toList
      else []

/-- Prints the lines of files side by side. -/
def paste (s : State) (arguments : List String) : State :=
  State.withArguments ⟨['s', 'z'], ['d'], [("serial", 's'), ("delimiters", 'd')], true⟩ 1
    (fun options s =>
      let names := if options.operands.isEmpty then ["-"] else options.operands
      let marks := delimiters ((options.value? 'd').getD "\t")
      let marks := if marks.isEmpty then ['\x00'] else marks
      let (sources, good, s) := s.readSources plainly names.eraseDups
      let linesNamed (name : String) : List (List Char) :=
        linesOf (((sources.find? (·.name = name)).map Source.text).getD [])
      let inputs := names.count "-"
      let share (i : Nat) : List (List Char) :=
        ((linesNamed "-").zipIdx.filter fun entry => entry.2 % inputs = i).map (·.1)
      let columns := (names.zipIdx).map fun (name, i) =>
        if name = "-" then share ((names.take i).count "-") else linesNamed name
      if options.has 's' then
        (s.print (joinLines ((names.filter fun name => sources.any (·.name = name)).map fun name =>
          joinedInTurn marks (linesNamed name)))).finish (if good then 0 else 1)
      else if !good then s.finish 1
      else
        let rows := (columns.map List.length).max?.getD 0
        let row (i : Nat) : List Char :=
          joinedInTurn marks (columns.map fun column => (column[i]?).getD [])
        (s.print (joinLines ((List.range rows).map row))).finish 0)
    s arguments

/-- Numbers lines. -/
def nl (s : State) (arguments : List String) : State :=
  State.withArguments ⟨['p'], ['b', 'w', 's', 'v', 'i', 'n', 'd', 'f', 'h', 'l'],
    [("body-numbering", 'b'), ("number-width", 'w'), ("number-separator", 's'),
      ("starting-line-number", 'v'), ("line-increment", 'i'), ("number-format", 'n')], true⟩ 1
    (fun options s =>
      let (sources, good, s) := s.readSources plainly options.operands
      let number (letter : Char) (usual : Nat) : Nat :=
        ((options.value? letter).bind wholeNumber?).getD usual
      let width := number 'w' 6
      let mark := ((options.value? 's').getD "\t").toList
      let kind := (options.value? 'b').getD "t"
      let shape := (options.value? 'n').getD "rn"
      let column (n : Nat) : List Char :=
        let digits := (toString n).toList
        let fill (c : Char) : List Char := List.replicate (width - digits.length) c
        if shape = "ln" then digits ++ fill ' '
        else if shape = "rz" then fill '0' ++ digits
        else fill ' ' ++ digits
      let step := number 'i' 1
      let lines := sources.flatMap fun source => linesOf source.text
      let (text, _) := lines.foldl (fun (text, n) line =>
        if kind = "a" ∨ (kind = "t" ∧ !line.isEmpty) then
          (text ++ [column n ++ mark ++ line], n + step)
        else (text ++ [List.replicate (width + mark.length) ' ' ++ line], n))
        (([] : List (List Char)), number 'v' 1)
      (s.print (joinLines text)).finish (if good then 0 else 1))
    s arguments

/-- Prints every line from its end to its start. -/
def rev (s : State) (arguments : List String) : State :=
  let (sources, good, s) := s.readSources
    (fun name failure => "cannot open " ++ name ++ ": " ++ failure.reason) arguments
  let reversed (line : List Char) : List Char :=
    if line.getLast? = some '\n' then line.dropLast.reverse ++ ['\n'] else line.reverse
  (s.print ((sources.flatMap fun source => Text.physicalLines source.text).flatMap
    reversed)).finish (if good then 0 else 1)

end PluginBuild.Shell
