import PluginBuild.Shell.Bytes
import PluginBuild.Shell.Printing
import PluginBuild.Shell.Regex
/-!
# Scripts of the stream editor

The commands that a stream editor runs for every line, read from their script.
-/

namespace PluginBuild.Shell

/-- What tells a line. -/
inductive Address
  | line (number : Nat)
  /-- Every line a number of lines after the first one. -/
  | step (first step : Nat)
  | last
  /-- A line in which an expression matches, or else the one that was used last. -/
  | matching (regex : Option Regex)

/-- Where a range of lines ends. -/
inductive RangeEnd
  | address (address : Address)
  /-- After a number of lines. -/
  | lines (count : Nat)
  /-- At a line whose number is a multiple. -/
  | multiple (of : Nat)

/-- The lines that a command is about. -/
structure Selector where
  first : Option Address
  last : Option RangeEnd
  negated : Bool

/-- How the case of a replacement changes. -/
inductive CaseChange
  | upper
  | lower
  /-- The next character alone. -/
  | upperNext
  | lowerNext
  | none
deriving DecidableEq

/-- A part of a replacement. -/
inductive ReplacementPart
  | text (text : List Char)
  | group (number : Nat)
  | change (change : CaseChange)

/-- A substitution. -/
structure Substitution where
  /-- What is replaced, or what the expression that was used last matches. -/
  regex : Option Regex
  replacement : List ReplacementPart
  /-- The number of the first match that is replaced. -/
  first : Nat
  /-- Whether the matches after it are replaced as well. -/
  all : Bool
  print : Bool
  file : Option String

/-- Where a text goes. -/
inductive TextPlace
  | before
  | after
  | instead
deriving DecidableEq

/-- What a command of the editor does. -/
inductive EditorAction
  /-- Commands up to the brace that closes them. -/
  | block
  | blockEnd
  | substitute (substitution : Substitution)
  | translate (pairs : List (Char × Char))
  | text (place : TextPlace) (text : List Char)
  | label (name : String)
  /-- Goes on at a label or the end: always, or if something has or has not been replaced. -/
  | jump (ifReplaced : Option Bool) (label : String)
  | delete
  | deleteLine
  | print
  | printLine
  | printNumber
  | printVisibly
  | printName
  | next
  | appendNext
  | hold
  | holdMore
  | recall
  | recallMore
  | exchange
  | clear
  | readFile (name : String)
  | writeFile (name : String)
  | writeLine (name : String)
  /-- Ends the editor, which may print the line first. -/
  | quit (prints : Bool) (status : Nat)
  | nothing

/-- A command of the editor. -/
structure EditorCommand where
  selector : Selector
  action : EditorAction

/-- A step of reading, which may fail with a message and how much is left to read. -/
abbrev EditorReading (α : Type) := StateT (List Char) (Except (String × Nat)) α

namespace EditorReading

/-- Fails with a message. -/
def fail {α : Type} (message : String) : EditorReading α := fun s => .error (message, s.length)

/-- The next character, which is taken. -/
def next? : EditorReading (Option Char) := do
  match ← get with
  | [] => return none
  | c :: rest =>
    set rest
    return some c

/-- Passes over characters. -/
def skip (fits : Char → Bool) : EditorReading Unit := modify (·.dropWhile fits)

/-- The characters up to the first one that does not fit. -/
def takeWhile (fits : Char → Bool) : EditorReading (List Char) := do
  let text := (← get).takeWhile fits
  modify (·.drop text.length)
  return text

/-- The number at the place. -/
def number : EditorReading Nat := do
  return (Text.digits? 10 (← takeWhile Char.isDigit)).getD 0

/-- Whether a character is a blank in a line. -/
def isBlank (c : Char) : Bool := c ≠ '\n' && isSpace c

/-- The text up to a delimiter, and what follows it. With `brackets` a delimiter in brackets is in
the text, and `\n` is a line break. -/
def delimited? (delimiter : Char) (brackets : Bool) :
    Nat → Bool → List Char → Option (List Char × List Char)
  | 0, _, _ | _ + 1, _, [] => none
  | fuel + 1, inSet, c :: rest =>
    let goOn (taken : List Char) (inSet : Bool) (rest : List Char) :
        Option (List Char × List Char) :=
      (delimited? delimiter brackets fuel inSet rest).map fun (text, after) =>
        (taken ++ text, after)
    if c = '\\' ∧ !inSet then
      match rest with
      | [] => none
      | d :: rest =>
        if d = delimiter then goOn [d] false rest
        else if d = 'n' ∧ brackets then goOn ['\n'] false rest
        else goOn [c, d] false rest
    else if inSet then
      if c = '[' ∧ rest.head? = some ':' then
        let name := rest.takeWhile (· ≠ ']')
        goOn (c :: name ++ [']']) true (rest.drop (name.length + 1))
      else if c = '\\' ∧ rest.head? = some 'n' then goOn ['\n'] true rest.tail
      else goOn [c] (c ≠ ']') rest
    else if c = delimiter then some ([], rest)
    else if c = '[' ∧ brackets then
      let sign := if rest.head? = some '^' then ['^'] else []
      let closing := if (rest.drop sign.length).head? = some ']' then [']'] else []
      goOn (c :: sign ++ closing) true (rest.drop (sign.length + closing.length))
    else goOn [c] false rest

/-- The text up to a delimiter. -/
def delimited (delimiter : Char) (brackets : Bool) (message : String) :
    EditorReading (List Char) := do
  let s ← get
  match delimited? delimiter brackets (s.length + 1) false s with
  | some (text, rest) =>
    set rest
    return text
  | none =>
    set ([] : List Char)
    fail message

/-- A text with the escapes for single characters that stand for themselves elsewhere. -/
def withEscapes : Nat → List Char → List Char
  | 0, _ | _ + 1, [] => []
  | fuel + 1, '\\' :: c :: rest =>
    let digits := (rest.take 2).takeWhile isHexadecimal
    match [('t', '\t'), ('f', '\x0c'), ('v', '\x0b'), ('a', '\x07'), ('r', '\r')].lookup c with
    | some d => d :: withEscapes fuel rest
    | none =>
      if c = 'x' ∧ !digits.isEmpty then
        byteOf 16 digits :: withEscapes fuel (rest.drop digits.length)
      else '\\' :: c :: withEscapes fuel rest
  | fuel + 1, c :: rest => c :: withEscapes fuel rest

/-- The expression that a text is. An empty one stands for the last one. -/
def regex (style : RegexStyle) (text : List Char) : EditorReading (Option Regex) := do
  if text.isEmpty then return none
  match Regex.ofText? style (withEscapes text.length text) with
  | .ok regex => return some regex
  | .error message => fail message

/-- The parts of a replacement. -/
def replacementParts : Nat → List Char → List ReplacementPart
  | 0, _ | _ + 1, [] => []
  | fuel + 1, '&' :: rest => .group 0 :: replacementParts fuel rest
  | fuel + 1, '\\' :: c :: rest =>
    let part : ReplacementPart :=
      if c.isDigit then .group (c.toNat - '0'.toNat)
      else
        match [('U', CaseChange.upper), ('L', .lower), ('u', .upperNext), ('l', .lowerNext),
          ('E', .none)].lookup c with
        | some change => .change change
        | none => .text [if c = 'n' then '\n' else c]
    part :: replacementParts fuel rest
  | fuel + 1, c :: rest =>
    let more := rest.takeWhile fun d => d ≠ '&' && d ≠ '\\'
    .text (c :: more) :: replacementParts fuel (rest.drop more.length)

/-- The flags of a substitution. -/
structure SubstitutionFlags where
  first : Option Nat
  all : Bool
  print : Bool
  ignoresCase : Bool
  file : Option String

/-- The name of a file, up to the end of the line. -/
def fileName : EditorReading String := do
  let before := (← get).length
  skip isBlank
  let name ← takeWhile (· ≠ '\n')
  if name.isEmpty then
    set (List.replicate before ' ')
    fail "missing filename in r/R/w/W commands"
  return String.ofList name

/-- Reads flags up to the end of a substitution. -/
def flags : Nat → SubstitutionFlags → EditorReading SubstitutionFlags
  | 0, found => return found
  | fuel + 1, found => do
    match ← get with
    | [] => return found
    | c :: rest =>
      if c = '\n' ∨ c = ';' ∨ c = '\x7d' ∨ c = '#' then return found
      else if c.isDigit then
        let n ← number
        if n = 0 then fail "number option to `s' command may not be zero"
        if found.first.isSome then fail "multiple number options to `s' command"
        flags fuel { found with first := some n }
      else
        set rest
        if c = 'g' then
          if found.all then fail "multiple `g' options to `s' command"
          flags fuel { found with all := true }
        else if c = 'p' then
          if found.print then fail "multiple `p' options to `s' command"
          flags fuel { found with print := true }
        else if c = 'i' ∨ c = 'I' then flags fuel { found with ignoresCase := true }
        else if c = 'm' ∨ c = 'M' ∨ c = 'e' ∨ isSpace c then flags fuel found
        else if c = 'w' then return { found with file := some (← fileName) }
        else fail "unknown option to `s'"

/-- The number of groups in an expression. -/
def groupCount : Regex → Nat
  | .sequence first second | .either first second => groupCount first + groupCount second
  | .repeated _ _ body => groupCount body
  | .group _ body => groupCount body + 1
  | _ => 0

/-- The substitution after its letter. -/
def substitution (extended : Bool) : EditorReading Substitution := do
  let message := "unterminated `s' command"
  match ← next? with
  | none => fail message
  | some delimiter =>
    let pattern ← delimited delimiter true message
    let text ← delimited delimiter false message
    let found ← flags (← get).length ⟨none, false, false, false, none⟩
    let regex ← regex ⟨extended, found.ignoresCase, true, false⟩ pattern
    let replacement := replacementParts (text.length + 1) (withEscapes text.length text)
    let groups := regex.elim 9 groupCount
    for part in replacement do
      match part with
      | .group n =>
        if groups < n then
          fail ("invalid reference \\" ++ toString n ++ " on `s' command's RHS")
      | _ => pure ()
    return ⟨regex, replacement, found.first.getD 1, found.all, found.print, found.file⟩

/-- The characters of a text in which backslashes quote. -/
def unquoted : List Char → List Char
  | '\\' :: 'n' :: rest => '\n' :: unquoted rest
  | '\\' :: c :: rest => c :: unquoted rest
  | c :: rest => c :: unquoted rest
  | [] => []

/-- The characters that are translated, after the letter. -/
def translation : EditorReading (List (Char × Char)) := do
  let message := "unterminated `y' command"
  match ← next? with
  | none => fail message
  | some delimiter =>
    let plain (text : List Char) : List Char := unquoted (withEscapes text.length text)
    let before := plain (← delimited delimiter false message)
    let after := plain (← delimited delimiter false message)
    if before.length ≠ after.length then
      fail "strings for `y' command are different lengths"
    return before.zip after

/-- The lines of a text, up to one that no backslash goes on. -/
def textLines : Nat → List Char → List Char × List Char
  | 0, s => ([], s)
  | _ + 1, [] => ([], [])
  | fuel + 1, '\\' :: c :: rest =>
    let (text, after) := textLines fuel rest
    (c :: text, after)
  | _ + 1, '\n' :: rest => ([], rest)
  | fuel + 1, c :: rest =>
    let (text, after) := textLines fuel rest
    (c :: text, after)

/-- The text of a command that prints it. -/
def commandText : EditorReading (List Char) := do
  let start ← get
  skip isBlank
  match ← get with
  | [] =>
    set start
    fail "expected \\ after `a', `c' or `i'"
  | '\\' :: rest =>
    let more := rest.dropWhile isBlank
    match more with
    | '\n' :: more => set more
    | _ => set rest
  | _ => pure ()
  let s ← get
  let escaped := (withEscapes s.length s)
  let (text, rest) := textLines (escaped.length + 1) escaped
  set (s.drop (s.length - min s.length rest.length))
  return text ++ ['\n']

/-- The label of a jump. -/
def labelName : EditorReading String := do
  skip isBlank
  return String.ofList (← takeWhile fun c => !isSpace c && c ≠ ';' && c ≠ '\x7d')

/-- The address of an expression after the delimiter that opens it. -/
def matchingAddress (extended : Bool) (delimiter : Option Char) :
    EditorReading (Option Address) := do
  let message := "unterminated address regex"
  match delimiter with
  | none => fail message
  | some delimiter =>
    let pattern ← delimited delimiter true message
    let letters ← takeWhile fun c => c = 'I' || c = 'M'
    return some (.matching (← regex ⟨extended, 'I' ∈ letters, true, false⟩ pattern))

/-- The address at the place, if there is one. -/
def address? (extended : Bool) : EditorReading (Option Address) := do
  match ← get with
  | c :: rest =>
    if c.isDigit then
      let n ← number
      match ← get with
      | '~' :: rest =>
        set rest
        return some (.step n (← number))
      | _ => return some (.line n)
    else if c = '$' then
      set rest
      return some .last
    else if c = '/' then
      set rest
      matchingAddress extended (some c)
    else if c = '\\' then
      set rest
      matchingAddress extended (← next?)
    else return none
  | [] => return none

/-- Passes over a distance, which tells a line only after another address. -/
def noDistance : EditorReading Unit := do
  match ← get with
  | c :: rest =>
    if c = '+' ∨ c = '~' then
      set rest
      skip isBlank
      if (← number) ≠ 0 then fail "invalid usage of +N or ~N as first address"
  | [] => pure ()

/-- The lines that a command is about. -/
def selector (extended : Bool) : EditorReading Selector := do
  noDistance
  let first ← address? extended
  skip isBlank
  let last ← match first, ← get with
    | some _, ',' :: rest => do
      set rest
      skip isBlank
      match ← get with
      | '+' :: rest =>
        set rest
        pure (some (.lines (← number)))
      | '~' :: rest =>
        set rest
        pure (some (.multiple (← number)))
      | _ =>
        match ← address? extended with
        | some address => pure (some (.address address))
        | none =>
          let _ ← next?
          fail "unexpected `,'"
    | _, _ => pure none
  match first, last with
  | some (.line 0), some (.address (.matching _)) => pure ()
  | some (.line 0), _ =>
    let _ ← next?
    fail "invalid usage of line address 0"
  | _, _ => pure ()
  skip isSpace
  match ← get with
  | '!' :: rest =>
    set rest
    skip isSpace
    if (← get).head? = some '!' then
      let _ ← next?
      fail "multiple `!'s"
    return ⟨first, last, true⟩
  | _ => return ⟨first, last, false⟩

/-- Reads the end of a command. -/
def commandEnd : EditorReading Unit := do
  skip isBlank
  match ← get with
  | c :: rest =>
    if c = '\n' ∨ c = ';' then set rest
    else if c = '\x7d' ∨ c = '#' then pure ()
    else
      set rest
      fail "extra characters after command"
  | [] => pure ()

/-- The actions of letters that nothing follows. -/
def plainActions : List (Char × EditorAction) :=
  [('d', .delete), ('D', .deleteLine), ('p', .print), ('P', .printLine), ('=', .printNumber),
    ('l', .printVisibly), ('F', .printName), ('n', .next), ('N', .appendNext), ('h', .hold),
    ('H', .holdMore), ('g', .recall), ('G', .recallMore), ('x', .exchange), ('z', .clear)]

/-- The action of a letter with what belongs to it. -/
def action (extended : Bool) (selector : Selector) (letter : Char) :
    EditorReading EditorAction := do
  let ended (action : EditorAction) : EditorReading EditorAction := do
    commandEnd
    return action
  if let some action := plainActions.lookup letter then return (← ended action)
  if letter = 's' then ended (.substitute (← substitution extended))
  else if letter = 'y' then ended (.translate (← translation))
  else if letter = 'a' then return .text .after (← commandText)
  else if letter = 'i' then return .text .before (← commandText)
  else if letter = 'c' then return .text .instead (← commandText)
  else if letter = ':' then
    if selector.first.isSome then fail ": doesn't want any addresses"
    skip isBlank
    let name ← takeWhile fun c => !isSpace c && c ≠ ';'
    if name.isEmpty then fail "\":\" lacks a label"
    ended (.label (String.ofList name))
  else if letter = 'b' then ended (.jump none (← labelName))
  else if letter = 't' then ended (.jump (some true) (← labelName))
  else if letter = 'T' then ended (.jump (some false) (← labelName))
  else if letter = 'r' then return .readFile (← fileName)
  else if letter = 'w' then return .writeFile (← fileName)
  else if letter = 'W' then return .writeLine (← fileName)
  else if letter = 'q' ∨ letter = 'Q' then
    if selector.last.isSome then fail "command only uses one address"
    skip isBlank
    ended (.quit (letter = 'q') (← number))
  else fail ("unknown command: `" ++ String.ofList [letter] ++ "'")

/-- The commands of a script, inside of a number of braces. -/
def commands (extended : Bool) : Nat → Nat → EditorReading (List EditorCommand)
  | 0, _ => return []
  | fuel + 1, depth => do
    skip fun c => isSpace c || c = ';'
    if (← get).isEmpty then
      if depth ≠ 0 then fun _ => .error ("unmatched `\x7b'", 0)
      else return []
    else
      let selector ← selector extended
      match ← next? with
      | none => fail "missing command"
      | some c =>
        if c = '#' then
          if selector.first.isSome then fail "comments don't accept any addresses"
          skip (· ≠ '\n')
          commands extended fuel depth
        else if c = '\x7b' then
          return ⟨selector, .block⟩ :: (← commands extended fuel (depth + 1))
        else if c = '\x7d' then
          if depth = 0 then fail "unexpected `\x7d'"
          if selector.first.isSome then fail "\x7d doesn't want any addresses"
          commandEnd
          return ⟨selector, .blockEnd⟩ :: (← commands extended fuel (depth - 1))
        else
          let action ← action extended selector c
          return ⟨selector, action⟩ :: (← commands extended fuel depth)

end EditorReading

end PluginBuild.Shell
