import PluginBuild.Shell.Record.Token
/-!
# Patterns of record scripts

Regular expressions in which backslashes also stand for single characters, and what parts texts.
-/

namespace PluginBuild.Shell.Record

/-- The characters that mean something in a pattern without a backslash. -/
def operators : List Char :=
  ['.', '[', ']', '\\', '*', '^', '$', '+', '?', '(', ')', '\x7b', '\x7d', '|']

/-- What stands between braces for a number of repetitions after an opening brace, and what follows
the closing one. Of several numbers of repetitions only the least counts if it is above one. -/
def countAt? (s : List Char) : Option (List Char × List Char) :=
  let least := s.takeWhile Char.isDigit
  let rest := s.drop least.length
  let most := rest.tail.takeWhile Char.isDigit
  let isRange : Bool := rest.head? = some ','
  let after := if isRange then rest.drop (most.length + 1) else rest
  if after.head? = some '\x7d' ∧ (!least.isEmpty ∨ !most.isEmpty) then
    let n := (Text.digits? 10 least).getD 0
    let range := if !isRange ∨ 1 < n then [] else ',' :: most
    some ((toString n).toList ++ range, after.tail)
  else none

/-- Whether the numbers of repetitions after an opening brace are none. -/
def isBadCount (s : List Char) : Bool :=
  let least := s.takeWhile Char.isDigit
  let rest := s.drop least.length
  let most := rest.tail.takeWhile Char.isDigit
  let after := if rest.head? = some ',' then rest.drop (most.length + 1) else rest
  let isLess : Bool :=
    match Text.digits? 10 least, Text.digits? 10 most with
    | some n, some m => rest.head? = some ',' && m < n
    | _, _ => false
  after.head? = some '\x7d' && (isLess || (least.isEmpty && most.isEmpty))

/-- A pattern in which backslashes do nothing but quote what means something. -/
def plainPattern (inSet : Bool) : Nat → List Char → List Char
  | 0, _ | _ + 1, [] => []
  | _ + 1, ['\\'] => ['\\', '\\']
  | fuel + 1, '\\' :: c :: rest =>
    let octal := ((c :: rest).take 3).takeWhile isOctal
    let quoted (d : Char) : List Char :=
      if d ∈ operators ∨ (inSet ∧ d = '-') then ['\\', d] else [d]
    if !octal.isEmpty then
      quoted (byteOf 8 octal) ++ plainPattern inSet fuel ((c :: rest).drop octal.length)
    else
      let d := ([('a', '\x07'), ('b', '\x08'), ('f', '\x0c'), ('n', '\n'), ('r', '\r'),
        ('t', '\t'), ('v', '\x0b')].lookup c).getD c
      quoted d ++ plainPattern inSet fuel rest
  | fuel + 1, c :: rest =>
    if inSet then
      if c = '[' ∧ rest.head? = some ':' then
        let name := rest.takeWhile (· ≠ ']')
        c :: name ++ ']' :: plainPattern true fuel (rest.drop (name.length + 1))
      else c :: plainPattern (c ≠ ']') fuel rest
    else if c = '[' then
      let sign := if rest.head? = some '^' then ['^'] else []
      let closing := if (rest.drop sign.length).head? = some ']' then [']'] else []
      c :: sign ++ closing ++
        plainPattern true fuel (rest.drop (sign.length + closing.length))
    else if c = '\x7b' then
      if isBadCount rest then [c, '1', ',', '0', '\x7d']
      else
        match countAt? rest with
        | some (count, after) => c :: count ++ '\x7d' :: plainPattern false fuel after
        | none => '\\' :: c :: plainPattern false fuel rest
    else c :: plainPattern false fuel rest

/-- What is wrong with a pattern, in the words of the reader of scripts. -/
def patternMessage (message : String) : String :=
  if message.startsWith "Unmatched ( " then "missing ')'"
  else if message = "Invalid preceding regular expression" then "missing operand"
  else if message.startsWith "Invalid content" then "bad interval expression"
  else "bad class -- [], [^] or ["

/-- The expression of a pattern. -/
def patternOf (text : List Char) : Except String Regex :=
  (Regex.ofText? ⟨true, false, true, true⟩ (plainPattern false (text.length + 1) text)).mapError
    fun message => "regular expression compile failed (" ++ patternMessage message ++ ")\n" ++
      String.ofList text

/-- The first match in a text from a position on that is not empty. -/
def findLong? (regex : Regex) (text : Array Char) : Nat → Nat → Option Regex.Found
  | 0, _ => none
  | fuel + 1, position =>
    match regex.find? text position with
    | none => none
    | some found =>
      if found.first < found.last then some found
      else findLong? regex text fuel (found.first + 1)

/-- The paragraph that a text starts with, and what follows the empty lines after it. -/
def paragraphAt : List Char → List Char × List Char
  | '\n' :: '\n' :: rest => ([], rest.dropWhile (· = '\n'))
  | ['\n'] => ([], [])
  | c :: rest =>
    let (text, after) := paragraphAt rest
    (c :: text, after)
  | [] => ([], [])

/-- What parts a text into fields. -/
inductive Separator
  /-- White space, which also may stand before and after. -/
  | blanks
  | single (c : Char)
  | matching (regex : Regex)
  /-- Nothing: each character is a field. -/
  | nothing

namespace Separator

/-- The separator that a text is. -/
def ofText (text : String) : Except String Separator :=
  match text.toList with
  | [] => .ok .nothing
  | [c] => .ok (if c = ' ' then .blanks else .single c)
  | s => (patternOf s).map .matching

/-- The words between white space. -/
def words : Nat → List Char → List (List Char)
  | 0, _ => []
  | fuel + 1, s =>
    let s := dropSpace s
    let word := s.takeWhile fun c => !isSpace c
    if word.isEmpty then [] else word :: words fuel (s.drop word.length)

/-- The texts between the matches of an expression that are not empty, from a position on. -/
def between (regex : Regex) (text : Array Char) : Nat → Nat → List (List Char)
  | 0, start => [text.toList.drop start]
  | fuel + 1, start =>
    match findLong? regex text (fuel + 1) start with
    | none => [text.toList.drop start]
    | some found => (text.extract start found.first).toList :: between regex text fuel found.last

/-- The fields of a text. -/
def fields (separator : Separator) (s : List Char) : List (List Char) :=
  if s.isEmpty then []
  else
    match separator with
    | .blanks => words (s.length + 1) s
    | .single c => splitAt c s
    | .matching regex => between regex s.toArray (s.length + 1) 0
    | .nothing => s.map fun c => [c]

end Separator

/-- What ends records. -/
inductive RecordMark
  /-- Empty lines. -/
  | paragraphs
  | single (c : Char)
  | matching (regex : Regex)

namespace RecordMark

/-- The mark that a text is. -/
def ofText (text : String) : Except String RecordMark :=
  match text.toList with
  | [] => .ok .paragraphs
  | [c] => .ok (.single c)
  | s => (patternOf s).map .matching

/-- The first record of a text, and what follows it. A text that is empty has none. -/
def recordAt? (mark : RecordMark) (s : List Char) : Option (List Char × List Char) :=
  match mark with
  | .paragraphs =>
    let s := s.dropWhile (· = '\n')
    if s.isEmpty then none else some (paragraphAt s)
  | .single c =>
    if s.isEmpty then none
    else
      let text := s.takeWhile (· ≠ c)
      some (text, s.drop (text.length + 1))
  | .matching regex =>
    if s.isEmpty then none
    else
      match findLong? regex s.toArray (s.length + 1) 0 with
      | some found => some (s.take found.first, s.drop found.last)
      | none => some (s, [])

/-- Whether the first record of a text ends in it, whatever comes after. -/
def endsIn (mark : RecordMark) (s : List Char) : Bool :=
  match mark with
  | .single c => c ∈ s
  | _ => false

end RecordMark

end PluginBuild.Shell.Record
