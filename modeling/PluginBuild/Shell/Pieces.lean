import PluginBuild.Shell.Blocks
import PluginBuild.Shell.Inspection
/-!
# Pieces of files

The utilities that cut a file into pieces, or give it another length.
-/

namespace PluginBuild.Shell

/-- How a text is cut. -/
inductive Cutting
  /-- A number of lines in each piece. -/
  | lines (count : Nat)
  /-- A number of bytes in each piece. -/
  | bytes (count : Nat)
  /-- At most a number of bytes of whole lines in each piece. -/
  | wholeLines (count : Nat)
  /-- A number of pieces of about the same length. -/
  | pieces (count : Nat)
  /-- A number of pieces of whole lines. -/
  | linePieces (count : Nat)
  /-- A number of pieces to which the lines go in turn. -/
  | turns (count : Nat)

namespace Cutting

/-- Lines, a number of them in each piece. `fuel` bounds the number of pieces. -/
def inGroups (count : Nat) : Nat → List (List Char) → List (List Char)
  | 0, _ | _ + 1, [] => []
  | fuel + 1, s => (s.take count).flatten :: inGroups count fuel (s.drop count)

/-- Lines in pieces that are not longer than a number of bytes, unless a line is. `piece` has been
collected. -/
def upTo (count : Nat) (piece : List Char) : List (List Char) → List (List Char)
  | [] => if piece.isEmpty then [] else [piece]
  | line :: rest =>
    if piece.length + line.length ≤ count then upTo count (piece ++ line) rest
    else if line.length ≤ count then
      (if piece.isEmpty then [] else [piece]) ++ upTo count line rest
    else
      let whole := if piece.isEmpty then [] else [piece]
      let parts := chunks count line.length line
      whole ++ parts.dropLast ++ upTo count (parts.getLastD []) rest

/-- The lines that start before the end of each piece, for the pieces that are left. `place` is
where the lines start. -/
def byStart (size count : Nat) (place : Nat) : Nat → List (List Char) → List (List Char)
  | 0, _ => []
  | 1, s => [s.flatten]
  | left + 1, s =>
    let ended := count - left
    let limit := ended * (size / count) + min ended (size % count)
    let starts := s.scanl (fun place line => place + line.length) place
    let here := ((s.zip starts).takeWhile fun entry => entry.2 < limit).length
    (s.take here).flatten :: byStart size count (starts.getD here place) left (s.drop here)

/-- The pieces of a text whose lines end with a character. -/
def cut (cutting : Cutting) (ending : Char) (text : List Char) : List (List Char) :=
  let swap (c : Char) : Char := if c = ending then '\n' else if c = '\n' then ending else c
  let allLines := if ending = '\n' then Text.physicalLines text
    else (Text.physicalLines (text.map swap)).map (·.map swap)
  match cutting with
  | lines count => inGroups count allLines.length allLines
  | bytes count => chunks count text.length text
  | wholeLines count => upTo count [] allLines
  | pieces count =>
    (List.range count).map fun i =>
      let start := i * (text.length / count) + min i (text.length % count)
      let stop := (i + 1) * (text.length / count) + min (i + 1) (text.length % count)
      (text.drop start).take (stop - start)
  | linePieces count => byStart text.length count 0 count allLines
  | turns count =>
    (List.range count).map fun i =>
      (allLines.zipIdx.filter fun entry => entry.2 % count = i).flatMap (·.1)

end Cutting

/-- How pieces are named. -/
structure PieceNames where
  start : String
  ending : String
  /-- The digits that number pieces. -/
  digits : List Char
  /-- How many digits there are at least, and whether there may be more. -/
  size : Nat
  grows : Bool
  first : Nat

namespace PieceNames

/-- The digits of a number. -/
def number (names : PieceNames) : Nat → Nat → List Char
  | 0, _ => []
  | size + 1, n =>
    names.number size (n / names.digits.length) ++
      [names.digits.getD (n % names.digits.length) 'a']

/-- The name of a piece. If more digits are needed then the last digit leads, once for each digit
more. `fuel` bounds how many there are. -/
def nameFrom (names : PieceNames) (size lead n : Nat) : Nat → Option (List Char)
  | 0 => none
  | fuel + 1 =>
    let radix := names.digits.length
    let room := if names.grows then (radix - 1) * Nat.pow radix (size - 1) else Nat.pow radix size
    if n < room then some (List.replicate lead (names.digits.getLastD 'z') ++ names.number size n)
    else if names.grows then names.nameFrom (size + 1) (lead + 1) (n - room) fuel
    else none

/-- The name of a piece. -/
def name? (names : PieceNames) (index : Nat) : Option String :=
  (names.nameFrom names.size 0 (names.first + index) 8).map fun digits =>
    names.start ++ String.ofList digits ++ names.ending

end PieceNames

/-- The number of a size with a unit. -/
def sizeWithUnit? (text : String) : Option Nat := do
  let digits := text.toList.takeWhile Char.isDigit
  return (← Text.digits? 10 digits) * (← blockUnit? (text.toList.drop digits.length))

/-- The cutting that an option asks for. -/
def Cutting.ofOption (letter : Char) (value : String) : Except String Cutting :=
  let positive (what : String) (cutting : Nat → Cutting) (text : String) :
      Except String Cutting :=
    match sizeWithUnit? text with
    | some (n + 1) => .ok (cutting (n + 1))
    | _ => .error ("invalid number of " ++ what ++ ": " ++ named text)
  if letter = 'l' then positive "lines" .lines value
  else if letter = 'b' then positive "bytes" .bytes value
  else if letter = 'C' then positive "lines" .wholeLines value
  else
    match value.toList with
    | 'l' :: '/' :: rest => positive "chunks" .linePieces (String.ofList rest)
    | 'r' :: '/' :: rest => positive "chunks" .turns (String.ofList rest)
    | _ => positive "chunks" .pieces value

/-- The arguments with a number of lines after a dash as the value of its option. -/
def withLineCount : List String → List String
  | [] => []
  | "--" :: rest => "--" :: rest
  | argument :: rest =>
    (match argument.toList with
      | '-' :: c :: more => if c.isDigit then ["-l", String.ofList (c :: more)] else [argument]
      | _ => [argument]) ++ withLineCount rest

/-- Saves pieces under names. -/
def savePieces (names : PieceNames) (tells : Bool) (pieces : List (List Char)) (s : State) :
    State :=
  pieces.zipIdx.foldl (fun s (piece, index) =>
    if s.status ≠ 0 then s
    else
      match names.name? index with
      | none => s.fault 1 "output file suffixes exhausted"
      | some name =>
        match s.save name piece with
        | .ok s =>
          if tells then s.print ("creating file " ++ named name ++ "\n").toList else s
        | .error failure => s.fault 1 (quotedIfNeeded name ++ ": " ++ failure.reason))
    (s.finish 0)

/-- Cuts a file into pieces. -/
def splitFile (s : State) (arguments : List String) : State :=
  State.withArguments ⟨['d', 'x', 'e', 'u', 'V'], ['l', 'b', 'C', 'n', 'a', 't', 'S', 'D', 'X'],
    [("lines", 'l'), ("bytes", 'b'), ("line-bytes", 'C'), ("number", 'n'), ("suffix-length", 'a'),
      ("separator", 't'), ("additional-suffix", 'S'), ("elide-empty-files", 'e'),
      ("verbose", 'V'), ("numeric-suffixes", 'D'), ("hex-suffixes", 'X')], true⟩ 1
    (fun options s =>
      let ways := options.options.filter fun option => option.1 ∈ ['l', 'b', 'C', 'n']
      match ways, options.operands with
      | _ :: _ :: _, _ => s.misused 1 "cannot split in more than one way"
      | _, _ :: _ :: extra :: _ => s.misused 1 ("extra operand " ++ named extra)
      | ways, operands =>
        match ways.head?.elim (.ok (.lines 1000)) fun way => Cutting.ofOption way.1 way.2 with
        | .error message => s.fault 1 message
        | .ok cutting =>
          let (sources, good, s) := s.readSources atOpening [operands.headD "-"]
          if !good then s.finish 1
          else
            let pieces := cutting.cut (((options.value? 't').getD "\n").toList.headD '\n')
              (sources.flatMap Source.text)
            let pieces := if options.has 'e' then pieces.filter (!·.isEmpty) else pieces
            let style := options.last? ['d', 'x', 'D', 'X']
            let digits := if style = some 'd' ∨ style = some 'D' then "0123456789"
              else if style.isSome then "0123456789abcdef" else "abcdefghijklmnopqrstuvwxyz"
            let size := ((options.value? 'a').bind wholeNumber?).filter (· ≠ 0)
            let first := (style.bind options.value?).bind wholeNumber?
            savePieces ⟨operands.getD 1 "x", (options.value? 'S').getD "", digits.toList,
              size.getD 2, size.isNone && first.isNone, first.getD 0⟩ (options.has 'V') pieces s)
    s (withLineCount arguments)

/-- The length that a text asks for, instead of one that a file has. -/
def newLength? (text : String) (length : Nat) : Option Nat :=
  let (sign, digits) := match text.toList with
    | c :: rest => if c ∈ ['+', '-', '<', '>', '/', '%'] then (c, rest) else (' ', c :: rest)
    | [] => (' ', [])
  (sizeWithUnit? (String.ofList digits)).map fun n =>
    if sign = '+' then length + n
    else if sign = '-' then length - n
    else if sign = '<' then min length n
    else if sign = '>' then max length n
    else if sign = '/' then length / n * n
    else if sign = '%' then (length + n - 1) / n * n
    else n

/-- Gives files other lengths. -/
def setLengths : State → List String → State :=
  State.withArguments ⟨['c', 'o'], ['s', 'r'],
    [("no-create", 'c'), ("io-blocks", 'o'), ("size", 's'), ("reference", 'r')], true⟩ 1
    fun options s =>
      let text := (options.value? 's').getD ""
      let model := (options.value? 'r').map fun name => s.files.read (pathOf name)
      match model with
      | some (.error failure) =>
        s.fault 1 ("cannot stat " ++ named ((options.value? 'r').getD "") ++ ": " ++
          failure.reason)
      | model =>
        if model.isNone ∧ !options.has 's' then
          s.misused 1 "you must specify either '--size' or '--reference'"
        else if model.isNone ∧ (newLength? text 0).isNone then
          s.fault 1 ("Invalid number: " ++ named text)
        else if options.operands.isEmpty then s.misused 1 "missing file operand"
        else
          options.operands.foldl (fun s name =>
            let old := ((s.files.read (pathOf name)).toOption).map fun content =>
              ofBytes content.toBytes
            if old.isNone ∧ options.has 'c' then s
            else
              let bytes := old.getD []
              let base := match model with
                | some (.ok content) => content.toBytes.length
                | _ => bytes.length
              let length := if options.has 's' then (newLength? text base).getD base else base
              let bytes := bytes.take length ++ List.replicate (length - bytes.length) '\x00'
              match s.save name bytes with
              | .ok s => s
              | .error failure =>
                s.fault 1 ("cannot open " ++ named name ++ " for writing: " ++ failure.reason))
            (s.finish 0)

end PluginBuild.Shell
