import PluginBuild.Shell.Doubles
import PluginBuild.Shell.Regex
import PluginBuild.Shell.Script
/-!
# Tokens of record scripts

The words and symbols of a record script, with their lines.
-/

namespace PluginBuild.Shell.Record

/-- A token. -/
inductive Token
  | number (value : Float) (text : String)
  | text (value : String)
  | regex (pattern : List Char)
  | name (name : String)
  /-- A name right before an opening parenthesis. -/
  | called (name : String)
  | keyword (word : String)
  | symbol (text : String)
  | newLine
  | ending
  /-- What is no token, with the message about it. -/
  | fault (message : String)

namespace Token

/-- The words with a meaning of their own. -/
def keywords : List String :=
  ["BEGIN", "END", "function", "if", "else", "while", "for", "do", "break", "continue",
    "next", "nextfile", "exit", "return", "delete", "in", "getline", "print", "printf"]

/-- The symbols, longer ones first. -/
def symbols : List String :=
  ["&&", "||", "++", "--", "+=", "-=", "*=", "/=", "%=", "^=", "==", "<=", ">=", "!=", "!~", ">>",
    "\x7b", "\x7d", "(", ")", "[", "]", ";", ",", "+", "-", "*", "/", "%", "^", "!", ">", "<",
    "|", "?", ":", "~", "$", "="]

/-- Whether a slash after a token divides. -/
def endsOperand : Token → Bool
  | number .. | text _ | regex _ | name _ | called _ => true
  | symbol s => s = ")" || s = "]" || s = "$" || s = "++" || s = "--"
  | _ => false

/-- Whether line ends after a token mean nothing. -/
def eatsLines : Token → Bool
  | symbol s => s = "," || s = "&&" || s = "||" || s = "\x7b" || s = ";"
  | keyword word => word = "do" || word = "else"
  | _ => false

/-- The text of a token in messages. -/
def shown : Token → String
  | newLine => "end of line"
  | ending => "end of file"
  | keyword word => word
  | symbol s | name s | called s | text s | number _ s => s
  | regex pattern => "/" ++ String.ofList pattern ++ "/"
  | fault _ => ""

end Token

/-- The text that a text with escapes stands for. -/
def unescaped : Nat → List Char → List Char
  | 0, _ | _ + 1, [] => []
  | fuel + 1, '\\' :: rest =>
    let octal := (rest.take 3).takeWhile isOctal
    let hexadecimal := (rest.tail.take 2).takeWhile isHexadecimal
    if !octal.isEmpty then byteOf 8 octal :: unescaped fuel (rest.drop octal.length)
    else
      match rest with
      | [] => ['\\']
      | c :: more =>
        if c = 'x' ∧ !hexadecimal.isEmpty then
          byteOf 16 hexadecimal :: unescaped fuel (more.drop hexadecimal.length)
        else if c = '\n' then unescaped fuel more
        else
          match [('"', '"'), ('\\', '\\'), ('a', '\x07'), ('b', '\x08'), ('f', '\x0c'),
            ('n', '\n'), ('r', '\r'), ('t', '\t'), ('v', '\x0b')].lookup c with
          | some d => d :: unescaped fuel more
          | none => '\\' :: c :: unescaped fuel more
  | fuel + 1, c :: rest => c :: unescaped fuel rest

/-- The text up to a quote that no backslash quotes, and what follows the quote. -/
def upToQuote (quote : Char) : List Char → Option (List Char × List Char)
  | [] => none
  | '\\' :: c :: rest => (upToQuote quote rest).map fun (text, after) => ('\\' :: c :: text, after)
  | c :: rest =>
    if c = quote then some ([], rest)
    else if c = '\n' then none
    else (upToQuote quote rest).map fun (text, after) => (c :: text, after)

/-- The pattern up to a slash outside of brackets, and what follows the slash. -/
def upToSlash (inSet : Bool) : List Char → Option (List Char × List Char)
  | [] => none
  | '\\' :: c :: rest => (upToSlash inSet rest).map fun (text, after) => ('\\' :: c :: text, after)
  | '[' :: '^' :: ']' :: rest =>
    (upToSlash true rest).map fun (text, after) => ('[' :: '^' :: ']' :: text, after)
  | '[' :: ']' :: rest => (upToSlash true rest).map fun (text, after) => ('[' :: ']' :: text, after)
  | c :: rest =>
    if c = '/' ∧ !inSet then some ([], rest)
    else if c = '\n' then none
    else
      (upToSlash ((inSet || c = '[') && c ≠ ']') rest).map fun (text, after) => (c :: text, after)

/-- The number at the start of a text in a script, and what follows it. -/
def literalAt? (s : List Char) : Option (Float × List Char) :=
  match s with
  | c :: d :: _ =>
    if c.isDigit ∨ (c = '.' ∧ d.isDigit) then
      if c = '0' ∧ d.toLower = 'x' then some (0, s.tail) else unsignedAt? s
    else none
  | [c] => if c.isDigit then unsignedAt? s else none
  | [] => none

/-- What a text or pattern is that nothing ends, by how it starts. -/
def runaway (kind : String) (quote : Char) (rest : List Char) : Token :=
  let start := (rest.take 10).takeWhile (· ≠ '\n')
  .fault ("runaway " ++ kind ++ " " ++ String.ofList (quote :: start) ++ " ...")

/-- The first token of a text that does not start with blanks, and what follows it. -/
def tokenAt (isOperand : Bool) (s : List Char) : Token × List Char :=
  match s with
  | [] => (.ending, [])
  | '\n' :: rest => (.newLine, rest)
  | '"' :: rest =>
    match upToQuote '"' rest with
    | some (text, after) => (.text (String.ofList (unescaped (text.length + 1) text)), after)
    | none =>
      (runaway "string constant" '"' rest, [])
  | c :: rest =>
    match literalAt? s with
    | some (x, after) =>
      (.number x (String.ofList (s.take (s.length - after.length))), after)
    | none =>
      if isNameStart c then
        let name := String.ofList (s.takeWhile isNamePart)
        let after := s.dropWhile isNamePart
        if name ∈ Token.keywords then (.keyword name, after)
        else if after.head? = some '(' then (.called name, after)
        else (.name name, after)
      else if c = '/' ∧ !isOperand then
        match upToSlash false rest with
        | some (pattern, after) => (.regex pattern, after)
        | none => (runaway "regular expression" '/' rest, [])
      else
        match Token.symbols.find? fun symbol => symbol.toList.isPrefixOf s with
        | some symbol => (.symbol symbol, s.drop symbol.length)
        | none =>
          let shown :=
            if c.toNat < 128 then "'" ++ String.ofList [c] ++ "'"
            else "0x" ++ String.ofList (Nat.toDigits 16 c.toNat)
          (.fault ("unexpected character " ++ shown), rest)

/-- A token that closes what has not been opened or leaves something open is at fault. -/
def checked (parentheses braces : Nat) (token : Token) : Token :=
  match token with
  | .newLine => if 0 < parentheses then .fault "missing ) near end of line" else token
  | .symbol ")" => if parentheses = 0 then .fault "extra ')'" else token
  | .symbol "\x7d" =>
    if 0 < parentheses then .fault "missing ) near \x7d"
    else if braces = 0 then .fault "extra '\x7d'"
    else token
  | .ending =>
    if 0 < parentheses then .fault "missing ) near end of file"
    else if 0 < braces then .fault "missing \x7d near end of file"
    else token
  | token => token

/-- A count after a token that may open or close something. -/
def countAfter (opening closing : String) (count : Nat) : Token → Nat
  | .symbol text =>
    if text = opening then count + 1 else if text = closing then count - 1 else count
  | _ => count

/-- The text without the blanks, comments and joined lines at its start, and how many lines are
joined. -/
def skipGaps : Nat → List Char → Nat × List Char
  | fuel + 1, '\\' :: '\n' :: rest =>
    let (joined, rest) := skipGaps fuel rest
    (joined + 1, rest)
  | fuel + 1, '\\' :: '\r' :: '\n' :: rest =>
    let (joined, rest) := skipGaps fuel rest
    (joined + 1, rest)
  | fuel + 1, c :: rest =>
    if c = '#' then skipGaps fuel (rest.dropWhile (· ≠ '\n'))
    else if c ≠ '\n' ∧ isSpace c then skipGaps fuel rest
    else (0, c :: rest)
  | _, s => (0, s)

/-- The tokens of a text with their lines. The last one is the ending or a fault. `last` is the one
before them. -/
def tokensFrom (line parentheses braces : Nat) (last : Token) :
    Nat → List Char → List (Token × Nat)
  | 0, _ => [(.ending, line)]
  | fuel + 1, s =>
    let (joined, s) := skipGaps (s.length + 1) s
    let line := line + joined
    let (token, rest) := tokenAt last.endsOperand s
    if last.eatsLines && s.head? = some '\n' then
      tokensFrom (line + 1) parentheses braces last fuel rest
    else
      match checked parentheses braces token with
      | .ending => [(.ending, line)]
      | .fault message => [(.fault message, line)]
      | token =>
        let passed := (s.take (s.length - rest.length)).count '\n'
        (token, line) :: tokensFrom (line + passed) (countAfter "(" ")" parentheses token)
          (countAfter "\x7b" "\x7d" braces token) token fuel rest

/-- The tokens of a script with their lines. -/
def tokens (s : List Char) : List (Token × Nat) := 
  tokensFrom 1 0 0 .newLine (s.length + 2) (s ++ ['\n'])

end PluginBuild.Shell.Record
