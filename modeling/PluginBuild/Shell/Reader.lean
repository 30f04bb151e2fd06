import PluginBuild.Shell.Bytes
import PluginBuild.Shell.Token
/-!
# Reading shell scripts

The commands of a script, read from its characters. Words can hold scripts, so both are read by
functions that call each other; `fuel` bounds how deep the calls go.
-/

namespace PluginBuild.Shell

/-- What the characters of a word stand in. -/
inductive Context
  /-- A word of a command, up to a blank or operator. -/
  | bare
  /-- Double quotes. -/
  | quotes
  /-- The operand of a parameter, up to the brace that closes it. -/
  | operand (quoted : Bool)
  /-- A text of its own. -/
  | document
  /-- An expression, inside of a number of brackets. -/
  | expression (depth : Nat)

namespace Context

/-- Whether the characters keep their blanks and patterns as they are. -/
def isQuoted : Context → Bool
  | bare => false
  | operand quoted => quoted
  | quotes | document | expression _ => true

/-- What is wrong where the text ends in the context. -/
def unclosed? : Context → Option String
  | bare | document => none
  | quotes | operand true => some "Unterminated quoted string"
  | operand false => some "Missing '\x7d'"
  | expression _ => some "Missing '))'"

/-- The number of characters that end the context, where it ends. -/
def ending? (context : Context) (c : Char) (rest : List Char) : Option Nat :=
  match context with
  | bare => if endsWord c then some 0 else none
  | quotes => if c = '"' then some 1 else none
  | operand _ => if c = '\x7d' then some 1 else none
  | document => none
  | expression depth => if depth = 0 ∧ c = ')' ∧ rest.head? = some ')' then some 2 else none

/-- The context after a character. -/
def after (context : Context) (c : Char) : Context :=
  match context with
  | expression depth =>
    if c = '(' then expression (depth + 1)
    else if c = ')' then expression (depth - 1)
    else context
  | _ => context

/-- Whether a backslash takes the meaning of a character. -/
def isEscaped (context : Context) (c : Char) : Bool :=
  !context.isQuoted || c ∈ ['$', '`', '\\'] ||
    match context with
    | quotes => c = '"'
    | operand _ => c = '"' || c = '\x7d'
    | _ => false

/-- Whether a character is one of a row that stands for itself. -/
def isPlain (context : Context) (c : Char) : Bool :=
  c ∉ ['\\', '$', '`', '"', '\x7d'] && (context.isQuoted || c ≠ '\'') &&
    match context with
    | bare => !endsWord c
    | expression _ => c ≠ '(' && c ≠ ')'
    | _ => true

end Context

/-- The operation that a sign stands for. -/
def operation? (whenEmpty : Bool) (sign : Char) : Option Operation :=
  if sign = '-' then some (.otherwise whenEmpty)
  else if sign = '=' then some (.assign whenEmpty)
  else if sign = '?' then some (.require whenEmpty)
  else if sign = '+' then some (.instead whenEmpty)
  else none

/-- The operation at the start of a text, and the number of its characters. -/
def readOperation (s : List Char) : Operation × Nat :=
  match s with
  | ':' :: c :: _ => ((operation? true c).getD .unknown, 2)
  | '#' :: '#' :: _ => (.dropStart true, 2)
  | '#' :: _ => (.dropStart false, 1)
  | '%' :: '%' :: _ => (.dropEnd true, 2)
  | '%' :: _ => (.dropEnd false, 1)
  | c :: _ => ((operation? false c).getD .unknown, 1)
  | [] => (.unknown, 0)

/-- The name of a parameter in braces, and whether its length is asked for. -/
def takeParameter : Reading (List Char × Bool) := do
  let fuel := (← get).rest.length
  let digits : Reading (List Char) := Reading.takeWhile Char.isDigit
  match ← Reading.rest with
  | '#' :: c :: after =>
    if isNameStart c then
      Reading.skip 1
      return (← Reading.takeName fuel, true)
    else if c.isDigit then
      Reading.skip 1
      return (← digits, true)
    else if isSpecial c ∧ after.head? = some '\x7d' then
      Reading.skip 2
      return ([c], true)
    else
      Reading.skip 1
      return (['#'], false)
  | c :: _ =>
    if isNameStart c then return (← Reading.takeName fuel, false)
    else if c.isDigit then return (← digits, false)
    else if isSpecial c then
      Reading.skip 1
      return ([c], false)
    else return ([], false)
  | [] => return ([], false)

/-- The text up to the backquote that closes a script. -/
def takeBackquoted (inQuotes : Bool) : Nat → Reading (List Char)
  | 0 => throw "EOF in backquote substitution"
  | fuel + 1 => do
    match (← get).rest with
    | [] => throw "EOF in backquote substitution"
    | '\\' :: c :: _ =>
      Reading.skip 2
      let more ← takeBackquoted inQuotes fuel
      if c = '\n' then return more
      else if c ∈ ['$', '`', '\\'] ∨ (inQuotes ∧ c = '"') then return c :: more
      else return '\\' :: c :: more
    | c :: _ =>
      Reading.skip 1
      if c = '`' then return [] else return c :: (← takeBackquoted inQuotes fuel)

/-- Whether a name can be one of a function. -/
def isFunctionName (name : List Char) : Bool :=
  isName name && String.ofList name ∉ ["break", "continue", "eval", "exec", "exit", "export",
    "readonly", "return", "set", "shift", "times", "trap", "unset"]

/-- Whether a word is just the arguments, which make no field where there are none. -/
def isArguments : Word → Bool
  | [.parameter "@" .value _ _] => true
  | _ => false

/-- One script after another, if there is another. -/
def Script.followedBy (first : Option Script) (second : Script) : Script :=
  match first with
  | none => second
  | some first => .sequence first second

mutual

/-- The parts of a word up to the end of its context. -/
def readParts : Nat → Context → Reading Word
  | 0, _ => throw "too deep"
  | fuel + 1, context => do
    match (← get).rest with
    | [] =>
      match context.unclosed? with
      | none => return []
      | some message => throw message
    | c :: rest =>
      if let some count := context.ending? c rest then
        Reading.skip count
        return []
      let quoted := context.isQuoted
      let parts : Word ←
        if c = '\\' then
          match rest with
          | [] => do
            Reading.skip 1
            pure [Part.literal ['\\'] true]
          | d :: _ => do
            Reading.skip 2
            if d = '\n' then pure []
            else pure [Part.literal (if context.isEscaped d then [d] else [c, d]) true]
        else if c = '$' then do
          Reading.skip 1
          let part ← readDollar fuel quoted
          pure [part]
        else if c = '`' then do
          Reading.skip 1
          let script ← takeBackquoted quoted (rest.length + 1)
          pure [Part.output (← readWhole fuel script) quoted]
        else if c = '\'' ∧ !quoted then do
          let inside := rest.takeWhile (· ≠ '\'')
          if inside.length = rest.length then
            Reading.skip (rest.length + 1)
            throw "Unterminated quoted string"
          Reading.skip (inside.length + 2)
          pure [Part.literal inside true]
        else if c = '"' ∧ !(context matches .document) ∧ !(context matches .expression _) then do
          Reading.skip 1
          let inside ← readParts fuel .quotes
          pure (if isArguments inside then inside else Part.literal [] true :: inside)
        else do
          let more := rest.takeWhile context.isPlain
          Reading.skip (more.length + 1)
          pure [Part.literal (c :: more) quoted]
      return parts ++ (← readParts fuel (context.after c))

/-- The part that a dollar sign before the text starts. -/
def readDollar : Nat → Bool → Reading Part
  | 0, _ => throw "too deep"
  | fuel + 1, quoted => do
    match ← Reading.rest with
    | '(' :: rest =>
      Reading.skip 1
      if rest.head? = some '(' then
        Reading.skip 1
        return .number (← readParts fuel (.expression 0)) quoted
      else
        let r ← get
        set { r with pushed := none }
        let script ← readList fuel false true none
        let token ← readToken fuel false false
        if !token.isOperator ")" then Reading.expected token "\")\""
        modify fun after => { after with pushed := r.pushed }
        return .output (script.getD .nothing) quoted
    | c :: _ =>
      if c = '\x7b' then
        Reading.skip 1
        let (name, length) ← takeParameter
        let rest ← Reading.rest
        if rest.head? = some '\x7d' ∧ !name.isEmpty then
          Reading.skip 1
          return .parameter (String.ofList name) (if length then .length else .value) [] quoted
        else
          let (operation, count) := readOperation rest
          let operation := if length ∨ name.isEmpty then .unknown else operation
          if operation ≠ .unknown then Reading.skip count
          let inQuotes :=
            match operation with
            | .dropStart _ | .dropEnd _ => false
            | _ => quoted
          return .parameter (String.ofList name) operation (← readParts fuel (.operand inQuotes))
            quoted
      else if isNameStart c then
        let name ← Reading.takeName (← get).rest.length
        return .parameter (String.ofList name) .value [] quoted
      else if isSpecial c then
        Reading.skip 1
        return .parameter (String.ofList [c]) .value [] quoted
      else return .literal ['$'] quoted
    | [] => return .literal ['$'] quoted

/-- The script that all of a text is. -/
def readWhole : Nat → List Char → Reading Script
  | 0, _ => throw "too deep"
  | fuel + 1, text => do
    let r ← get
    set { r with rest := text, pushed := none }
    let script ← readList fuel false true none
    let token ← readToken fuel false false
    if !(token matches .ended) then Reading.unexpected token
    modify fun after => { after with rest := r.rest, line := r.line, pushed := r.pushed }
    return script.getD .nothing

/-- The word that an inner document is. Without quotes around the delimiter parts of the document
are expanded. -/
def readDocument : Nat → Reading Word
  | 0 => throw "too deep"
  | fuel + 1 => do
    let strip := (← Reading.rest).head? = some '-'
    if strip then Reading.skip 1
    let _ ← Reading.takeWhile fun c => c = ' ' || c = '\t'
    let rest ← Reading.rest
    if rest.head?.all fun c => endsWord c then Reading.unexpected (← readToken fuel false false)
    let (delimiter, quoted) ← Reading.takeDelimiter (rest.length + 1)
    let document ← Reading.takeDocument strip delimiter
    if quoted then return [.literal document true]
    else
      let r ← get
      set { r with rest := document }
      let word ← readParts fuel .document
      modify fun after => { after with rest := r.rest, line := r.line, taken := r.taken }
      return word

/-- The next token. With `breaks` line breaks are passed over, and with `keywords` a word may be a
keyword. -/
def readToken : Nat → (breaks keywords : Bool) → Reading Token
  | 0, _, _ => throw "too deep"
  | fuel + 1, breaks, keywords => do
    let token ← match ← Reading.takePushed with
      | some token => pure token
      | none => nextToken fuel
    if breaks ∧ token matches .lineBreak then readToken fuel breaks keywords
    else if !keywords then return token
    else
      match token.asKeyword with
      | .word word =>
        if ← Reading.useAlias true word then readToken fuel breaks keywords
        else return .word word
      | token => return token

/-- The next token of the text. -/
def nextToken : Nat → Reading Token
  | 0 => throw "too deep"
  | fuel + 1 => do
    let _ ← Reading.takeWhile fun c => c = ' ' || c = '\t'
    match ← Reading.rest with
    | [] => return .ended
    | c :: rest =>
      if c = ' ' ∨ c = '\t' then nextToken fuel
      else if c = '\n' then
        Reading.skip 1
        return .lineBreak
      else if c = '#' then
        Reading.skip (rest.takeWhile (· ≠ '\n')).length
        Reading.skip 1
        nextToken fuel
      else
        match redirect? (c :: rest), startingWith? operators (c :: rest) with
        | some (token, after), _ =>
          Reading.skip (rest.length + 1 - after.length)
          return token
        | none, some (operator, _) =>
          Reading.skip operator.length
          return .operator operator
        | none, none => return .word (← readParts fuel .bare)

/-- The redirection whose sign has been read. -/
def readRedirect : Nat → Nat → Redirection → Reading Redirect
  | 0, _, _ => throw "too deep"
  | fuel + 1, stream, redirection => do
    if redirection = .document then return .mk stream .document (← readDocument fuel)
    else
      match ← readToken fuel false false with
      | .word target => return .mk stream redirection target
      | token => Reading.unexpected token

/-- The redirections that follow a command. -/
def readRedirects : Nat → Reading (List Redirect)
  | 0 => throw "too deep"
  | fuel + 1 => do
    match ← readToken fuel false true with
    | .redirect stream redirection =>
      let redirect ← readRedirect fuel stream redirection
      return redirect :: (← readRedirects fuel)
    | token =>
      Reading.push token
      return []

/-- The commands of a list, of which some have been read. With `one` the list ends with its line,
else it goes on to what closes it. With `mayEnd` it may end right away. -/
def readList : Nat → (one mayEnd : Bool) → Option Script → Reading (Option Script)
  | 0, _, _, _ => throw "too deep"
  | fuel + 1, one, mayEnd, before => do
    let token ← readToken fuel (!one) true
    match token with
    | .lineBreak => return before
    | .ended =>
      Reading.push token
      return before
    | _ =>
      Reading.push token
      if mayEnd ∧ token.endsList then return before
      let script ← readChain fuel
      let token ← readToken fuel false false
      let ended := token.isOperator "&"
      let script := Script.followedBy before (if ended then .background script else script)
      if token matches .lineBreak | .ended then
        Reading.push token
        readList fuel one (!one) (some script)
      else if ended ∨ token.isOperator ";" then readList fuel one (!one) (some script)
      else if one then Reading.unexpected token
      else
        Reading.push token
        return some script

/-- The commands of a list that something has to close. -/
def readBlock : Nat → Reading Script
  | 0 => throw "too deep"
  | fuel + 1 => do return (← readList fuel false false none).getD .nothing

/-- Pipelines, each run if those before it have succeeded or failed. -/
def readChain : Nat → Reading Script
  | 0 => throw "too deep"
  | fuel + 1 => do
    let first ← readPipeline fuel false
    readChainFrom fuel first

/-- The pipelines that follow the first ones of a chain. -/
def readChainFrom : Nat → Script → Reading Script
  | 0, _ => throw "too deep"
  | fuel + 1, first => do
    let token ← readToken fuel false false
    if token.isOperator "&&" then
      let second ← readPipeline fuel true
      readChainFrom fuel (.andThen first second)
    else if token.isOperator "||" then
      let second ← readPipeline fuel true
      readChainFrom fuel (.orElse first second)
    else
      Reading.push token
      return first

/-- A pipeline, which an exclamation mark negates. -/
def readPipeline : Nat → Bool → Reading Script
  | 0, _ => throw "too deep"
  | fuel + 1, follows => do
    let token ← readToken fuel follows follows
    let isNegated := token.isKeyword "!"
    if !isNegated then Reading.push token
    let first ← readCommand fuel false isNegated
    let more ← readPipes fuel
    let script := if more.isEmpty then first else .pipe (first :: more)
    return if isNegated then .negated script else script

/-- The commands of a pipeline after the first one. -/
def readPipes : Nat → Reading (List Script)
  | 0 => throw "too deep"
  | fuel + 1 => do
    let token ← readToken fuel false false
    if token.isOperator "|" then
      let script ← readCommand fuel true true
      return script :: (← readPipes fuel)
    else
      Reading.push token
      return []

/-- Reads a keyword or operator that has to come next. -/
def readClosing : Nat → String → Reading Unit
  | 0, _ => throw "too deep"
  | fuel + 1, text => do
    let token ← readToken fuel false false
    if !(token.isKeyword text || token.isOperator text) then
      Reading.expected token ("\"" ++ text ++ "\"")

/-- The branches of a conditional after the word that opens it. -/
def readBranches : Nat → Reading Script
  | 0 => throw "too deep"
  | fuel + 1 => do
    let condition ← readBlock fuel
    readClosing fuel "then"
    let yes ← readBlock fuel
    let token ← readToken fuel false false
    if token.isKeyword "elif" then return .branch condition yes (← readBranches fuel)
    else
      let no ← if token.isKeyword "else" then readBlock fuel else do
        Reading.push token
        pure .nothing
      readClosing fuel "fi"
      return .branch condition yes no

/-- The body of a loop. -/
def readBody : Nat → Reading Script
  | 0 => throw "too deep"
  | fuel + 1 => do
    let body ← readBlock fuel
    readClosing fuel "done"
    return body

/-- The words of a loop, up to the end of the line or a semicolon. -/
def readWords : Nat → Reading (List Word)
  | 0 => throw "too deep"
  | fuel + 1 => do
    match ← readToken fuel false false with
    | .word word => return word :: (← readWords fuel)
    | .lineBreak => return []
    | token => if token.isOperator ";" then return [] else Reading.unexpected token

/-- A loop over words. -/
def readEach : Nat → Nat → Reading Script
  | 0, _ => throw "too deep"
  | fuel + 1, line => do
    let name ← match ← readToken fuel false false with
      | .word word =>
        match Word.plain? word with
        | some text => if isName text then pure text else throw "Bad for loop variable"
        | none => throw "Bad for loop variable"
      | _ => throw "Bad for loop variable"
    let token ← readToken fuel true true
    let words ← if token.isKeyword "in" then
        let words ← readWords fuel
        pure (some words)
      else do
        if !token.isOperator ";" then Reading.push token
        pure none
    let token ← readToken fuel true true
    if !token.isKeyword "do" then Reading.expected token "\"do\""
    return .each line (String.ofList name) words (← readBody fuel)

/-- The patterns of an arm, of which the first token has been read. -/
def readPatterns : Nat → Token → Reading (List Word)
  | 0, _ => throw "too deep"
  | fuel + 1, token => do
    let word : Word := match token with
      | .word word => word
      | .keyword text => [.literal text.toList false]
      | _ => []
    let token ← readToken fuel false false
    if token.isOperator "|" then return word :: (← readPatterns fuel (← readToken fuel false false))
    else if token.isOperator ")" then return [word]
    else Reading.expected token "\")\""

/-- The arms of a choice. -/
def readArms : Nat → Reading (List (List Word × Script))
  | 0 => throw "too deep"
  | fuel + 1 => do
    let token ← readToken fuel true true
    if token.isKeyword "esac" then return []
    let token ← if token.isOperator "(" then readToken fuel false false else pure token
    let patterns ← readPatterns fuel token
    let body := (← readList fuel false true none).getD .nothing
    let token ← readToken fuel true true
    if token.isKeyword "esac" then return [(patterns, body)]
    else if token.isOperator ";;" then return (patterns, body) :: (← readArms fuel)
    else Reading.expected token "\";;\""

/-- A choice between patterns. -/
def readChoice : Nat → Nat → Reading Script
  | 0, _ => throw "too deep"
  | fuel + 1, line => do
    match ← readToken fuel false false with
    | .word word =>
      let token ← readToken fuel true true
      if !token.isKeyword "in" then Reading.expected token "\"in\""
      return .choose line word (← readArms fuel)
    | token => Reading.expected token "word"

/-- A command. -/
def readCommand : Nat → (breaks keywords : Bool) → Reading Script
  | 0, _, _ => throw "too deep"
  | fuel + 1, breaks, keywords => do
    let token ← readToken fuel breaks keywords
    let line := (← get).line
    let redirecting (script : Script) : Reading Script := do
      let redirects ← readRedirects fuel
      match script with
      | .subshell line script _ => return .subshell line script redirects
      | _ => return if redirects.isEmpty then script else .redirected line script redirects
    match token with
    | .word _ | .redirect .. =>
      Reading.push token
      readSimple fuel line [] [] []
    | .operator "(" =>
      let script ← readBlock fuel
      readClosing fuel ")"
      redirecting (.subshell line script [])
    | .keyword "\x7b" =>
      let script ← readBlock fuel
      readClosing fuel "\x7d"
      redirecting script
    | .keyword "if" => redirecting (← readBranches fuel)
    | .keyword "while" =>
      let condition ← readBlock fuel
      readClosing fuel "do"
      redirecting (.loop true condition (← readBody fuel))
    | .keyword "until" =>
      let condition ← readBlock fuel
      readClosing fuel "do"
      redirecting (.loop false condition (← readBody fuel))
    | .keyword "for" => redirecting (← readEach fuel line)
    | .keyword "case" => redirecting (← readChoice fuel line)
    | _ => Reading.unexpected token

/-- A simple command, of which some assignments, words and redirections have been read, last ones
first. -/
def readSimple : Nat → Nat → List (String × Word) → List Word → List Redirect → Reading Script
  | 0, _, _, _, _ => throw "too deep"
  | fuel + 1, line, assignments, words, redirects => do
    let token ← readToken fuel false false
    let complete : Reading Script := do
      Reading.push token
      return .simple line assignments.reverse words.reverse redirects.reverse
    match token with
    | .word word =>
      match if words.isEmpty then assignment? word else none with
      | some assignment => readSimple fuel line (assignment :: assignments) words redirects
      | none =>
        if ← Reading.useAlias words.isEmpty word then
          readSimple fuel line assignments words redirects
        else readSimple fuel line assignments (word :: words) redirects
    | .redirect stream redirection =>
      let redirect ← readRedirect fuel stream redirection
      readSimple fuel line assignments words (redirect :: redirects)
    | .operator "(" =>
      match words, assignments, redirects with
      | [word], [], [] =>
        readClosing fuel ")"
        match Word.plain? word with
        | some name =>
          if isFunctionName name then
            return .define (String.ofList name) (← readCommand fuel true true)
          else throw "Bad function name"
        | none => throw "Bad function name"
      | _, _, _ => complete
    | _ => complete

end

namespace Reader

/-- Whether nothing is left to read. -/
def isAtEnd (r : Reader) : Bool := r.rest.isEmpty

/-- The commands of the next line with some aliases, or what is wrong with them, and the reader
after the line. -/
def readLine (aliases : List (String × String)) (r : Reader) :
    Except String (Option Script) × Reader :=
  let size := total (aliases.map (·.2.length))
  (readList (20 * (r.rest.length + size) + 100) true false none).run.run
    { r with pushed := none, aliases }

end Reader

end PluginBuild.Shell
