import PluginBuild.Shell.Script
/-!
# Tokens of shell scripts

What the characters of a script are cut into, and the reader that goes along them. Words can hold
scripts, so words and commands are read together; here is what both need.
-/

namespace PluginBuild.Shell

/-- A piece of a script. -/
inductive Token
  | word (word : Word)
  | keyword (text : String)
  /-- An operator between commands. -/
  | operator (text : String)
  | redirect (stream : Nat) (redirection : Redirection)
  | lineBreak
  /-- The end of the script. -/
  | ended

namespace Token

/-- The words that open, part or close commands. -/
def keywords : List String :=
  ["!", "case", "do", "done", "elif", "else", "esac", "fi", "for", "if", "in", "then", "until",
    "while", "\x7b", "\x7d"]

/-- The keywords that end a list of commands. -/
def closingKeywords : List String :=
  ["do", "done", "elif", "else", "esac", "fi", "then", "\x7d"]

/-- Whether a token ends a list of commands. -/
def endsList : Token → Bool
  | .ended => true
  | .operator text => text = ")" || text = ";;"
  | .keyword text => text ∈ closingKeywords
  | _ => false

/-- The name of a token in messages. -/
def name : Token → String
  | .word .. => "word"
  | .keyword text | .operator text => "\"" ++ text ++ "\""
  | .redirect .. => "redirection"
  | .lineBreak => "newline"
  | .ended => "end of file"

/-- Whether a token is an operator. -/
def isOperator (text : String) : Token → Bool
  | .operator other => text = other
  | _ => false

/-- Whether a token is a keyword. -/
def isKeyword (text : String) : Token → Bool
  | .keyword other => text = other
  | _ => false

/-- The keyword that a word is where keywords may stand. -/
def asKeyword : Token → Token
  | .word parts =>
    match Word.plain? parts with
    | some text =>
      if String.ofList text ∈ keywords then .keyword (String.ofList text) else .word parts
    | none => .word parts
  | token => token

end Token

/-- The operators, longer ones before those that they start with. -/
def operators : List String := ["&&", "||", ";;", ";", "&", "|", "(", ")"]

/-- The signs of redirections, longer ones before those that they start with. -/
def redirectSigns : List (String × Redirection) :=
  [(">>", .append), (">&", .duplicate), (">|", .overwrite), ("<<", .document),
    ("<&", .duplicate), ("<>", .readWrite), (">", .write), ("<", .read)]

/-- What follows a text at the start of another. -/
def after? (text : String) (s : List Char) : Option (List Char) :=
  if text.toList.isPrefixOf s then some (s.drop text.length) else none

/-- The first of some texts that a text starts with, and what follows it. -/
def startingWith? (texts : List String) (s : List Char) : Option (String × List Char) :=
  texts.findSome? fun text => (after? text s).map (text, ·)

/-- The redirection at the start of a text, which a digit for the stream may precede, and what
follows it. -/
def redirect? (s : List Char) : Option (Token × List Char) :=
  let (digit, rest) :=
    match s with
    | c :: rest => if c.isDigit then (some (c.toNat - '0'.toNat), rest) else (none, s)
    | [] => (none, [])
  redirectSigns.findSome? fun (sign, redirection) =>
    (after? sign rest).map fun more =>
      let usual := if sign.startsWith "<" then 0 else 1
      (.redirect (digit.getD usual) redirection, more)

/-- The characters that end a word. -/
def endsWord (c : Char) : Bool := c ∈ [' ', '\t', '\n', ';', '&', '|', '(', ')', '<', '>']

/-- The parameters whose names are one character. -/
def isSpecial (c : Char) : Bool := c ∈ ['@', '*', '#', '?', '$', '!', '-'] || c.isDigit

/-- What goes along the characters of a script. -/
structure Reader where
  rest : List Char
  /-- The number of the current line. -/
  line : Nat
  /-- How many lines after the current one have been taken out of the text. -/
  taken : Nat
  /-- A token that has been read and given back. -/
  pushed : Option Token
  /-- The texts that aliases stand for. -/
  aliases : List (String × String)
  /-- The aliases whose texts are being read, the length of what follows them, and whether a word
  after that may be an alias wherever it stands. -/
  inUse : List (String × Nat × Bool)

namespace Reader

/-- The reader at the start of a text. -/
def ofText (text : List Char) : Reader := ⟨text, 1, 0, none, [], []⟩

/-- The reader after the next character. -/
def next (r : Reader) : Reader :=
  match r.rest with
  | [] => r
  | c :: rest =>
    if c = '\n' then { r with rest, line := r.line + 1 + r.taken, taken := 0 }
    else { r with rest }

/-- The reader after some characters. -/
def skip : Nat → Reader → Reader
  | 0, r => r
  | n + 1, r => skip n r.next

/-- The reader after the line breaks that backslashes hide. -/
def skipHidden : Nat → Reader → Reader
  | 0, r => r
  | fuel + 1, r => if (after? "\\\n" r.rest).isSome then skipHidden fuel (r.skip 2) else r

end Reader

/-- A step of reading, which may fail with a message. -/
abbrev Reading (α : Type) := ExceptT String (StateM Reader) α

namespace Reading

/-- The text that has not been read, without hidden line breaks at its start. -/
def rest : Reading (List Char) := do
  modify fun r => r.skipHidden r.rest.length
  return (← get).rest

/-- Goes on behind some characters. -/
def skip (count : Nat) : Reading Unit := modify (Reader.skip count)

/-- Gives a token back. -/
def push (token : Token) : Reading Unit := modify fun r => { r with pushed := some token }

/-- The token that has been given back. -/
def takePushed : Reading (Option Token) := do
  let pushed := (← get).pushed
  modify fun r => { r with pushed := none }
  return pushed

/-- Puts the text of an alias in the place of the word that has just been read, if the word is an
alias that is not in use. One that `isCommand` does not say to be that of a command counts only
after an alias that ends with a blank. -/
def useAlias (isCommand : Bool) (word : Word) : Reading Bool := do
  let r ← get
  if r.aliases.isEmpty then return false
  let isRead (entry : String × Nat × Bool) : Bool := r.rest.length < entry.2.1
  let inUse := r.inUse.filter (!isRead ·)
  let found : Option (String × String) := do
    let name := String.ofList (← Word.plain? word)
    if (inUse.lookup name).isSome then none
    else if isCommand ∨ r.inUse.any fun entry => isRead entry && entry.2.2 then
      (r.aliases.lookup name).map (name, ·)
    else none
  match found with
  | none =>
    set { r with inUse }
    return false
  | some (name, text) =>
    let endsInBlank := text.endsWith " " || text.endsWith "\t"
    set { r with
      rest := text.toList ++ r.rest
      inUse := (name, r.rest.length, endsInBlank) :: inUse }
    return true

/-- The characters up to the first one that does not fit. -/
def takeWhile (fits : Char → Bool) : Reading (List Char) := do
  let text := (← get).rest.takeWhile fits
  skip text.length
  return text

/-- The characters of a name. -/
def takeName : Nat → Reading (List Char)
  | 0 => return []
  | fuel + 1 => do
    match ← rest with
    | c :: _ =>
      if isNamePart c then
        skip 1
        return c :: (← takeName fuel)
      else return []
    | [] => return []

/-- Fails because of a token. -/
def unexpected {α : Type} (token : Token) : Reading α := throw (token.name ++ " unexpected")

/-- Fails because of a token in the place of another. -/
def expected {α : Type} (token : Token) (other : String) : Reading α :=
  throw (token.name ++ " unexpected (expecting " ++ other ++ ")")

/-- The lines up to one that holds a delimiter, and what follows that line. With `strip` leading
tabs do not count. The number of lines includes that of the delimiter. -/
def linesBefore (strip : Bool) (delimiter : List Char) :
    Nat → List Char → List Char × List Char × Nat
  | 0, s => ([], s, 0)
  | fuel + 1, s =>
    let s := if strip then s.dropWhile (· = '\t') else s
    let line := s.takeWhile (· ≠ '\n')
    let rest := (s.dropWhile (· ≠ '\n')).drop 1
    if s.isEmpty then ([], [], 0)
    else if line = delimiter then ([], rest, 1)
    else
      let (lines, after, count) := linesBefore strip delimiter fuel rest
      (s.take (line.length + 1) ++ lines, after, count + 1)

/-- Takes the lines after the current one out of the text, up to a delimiter. -/
def takeDocument (strip : Bool) (delimiter : List Char) : Reading (List Char) := do
  let r ← get
  let line := r.rest.takeWhile (· ≠ '\n')
  let below := (r.rest.dropWhile (· ≠ '\n')).drop 1
  let (document, after, count) := linesBefore strip delimiter (below.length + 1) below
  set { r with rest := line ++ '\n' :: after, taken := r.taken + count }
  return document

/-- The delimiter of a document without its quotes, and whether it has quotes. -/
def takeDelimiter : Nat → Reading (List Char × Bool)
  | 0 => return ([], false)
  | fuel + 1 => do
    match ← rest with
    | [] => return ([], false)
    | c :: rest =>
      if c = '\'' ∨ c = '"' then
        let inside := rest.takeWhile (· ≠ c)
        if inside.length = rest.length then throw "Unterminated quoted string"
        skip (inside.length + 2)
        return (inside ++ (← takeDelimiter fuel).1, true)
      else if c = '\\' then
        skip 2
        return (rest.take 1 ++ (← takeDelimiter fuel).1, true)
      else if endsWord c then return ([], false)
      else
        skip 1
        let (more, quoted) ← takeDelimiter fuel
        return (c :: more, quoted)

end Reading

end PluginBuild.Shell
