import PluginBuild.Shell.Record.Pattern
import PluginBuild.Shell.Record.Syntax
import PluginBuild.Shell.Record.Token
/-!
# Reading record scripts

The rules and functions that the tokens of a script make up, or what is wrong with them.
-/

namespace PluginBuild.Shell.Record

/-- How far a script has been read. -/
structure Reading where
  tokens : List (Token × Nat)
  /-- The functions that are called. -/
  called : List String
  /-- The parameters of the function that is read, in a function. -/
  parameters : Option (List String)
  /-- Whether a record is at hand. -/
  hasRecord : Bool
  /-- How many loops are open. -/
  loops : Nat
  /-- Whether the names that are known belong to tables. -/
  kinds : List (String × Bool)

/-- A step of reading, which may fail with a message. -/
abbrev ReadingOf (α : Type) := StateT Reading (Except String) α

namespace ReadingOf

/-- The next token, which is not taken. -/
def peek : ReadingOf Token := return ((← get).tokens.head?.map (·.1)).getD .ending

/-- The token after the next one. -/
def peekSecond : ReadingOf Token := return (((← get).tokens[1]?).map (·.1)).getD .ending

/-- Passes over a token. The last one stays. -/
def advance : ReadingOf Unit :=
  modify fun r => if 1 < r.tokens.length then { r with tokens := r.tokens.tail } else r

/-- Fails with a message about a line. -/
def fail {α : Type} (message : String) : ReadingOf α := do
  let line := ((← get).tokens.head?.map (·.2)).getD 1
  throw ("line " ++ toString line ++ ": " ++ message)

/-- Fails because of the next token. -/
def unexpected {α : Type} : ReadingOf α := do
  let line := ((← get).tokens.head?.map (·.2)).getD 1
  match ← peek with
  | .fault message =>
    if message.startsWith "unexpected" then throw (toString line ++ ": " ++ message)
    else fail message
  | token => fail ("syntax error at or near " ++ token.shown)

/-- Whether the next token is a symbol. -/
def isNext (text : String) : ReadingOf Bool := do
  match ← peek with
  | .symbol other => return other = text
  | _ => return false

/-- Whether the next token is a word. -/
def isNextWord (word : String) : ReadingOf Bool := do
  match ← peek with
  | .keyword other => return other = word
  | _ => return false

/-- Takes a symbol if it is next. -/
def accept (text : String) : ReadingOf Bool := do
  if ← isNext text then
    advance
    return true
  else return false

/-- Takes a word if it is next. -/
def acceptWord (word : String) : ReadingOf Bool := do
  if ← isNextWord word then
    advance
    return true
  else return false

/-- Takes a symbol that has to be next. -/
def expect (text : String) : ReadingOf Unit := do
  if !(← accept text) then unexpected

/-- Passes over line ends. -/
def skipLines : ReadingOf Unit :=
  modify fun r =>
    let isLineEnd (token : Token × Nat) : Bool :=
      match token.1 with
      | .newLine => true
      | _ => false
    { r with tokens := r.tokens.dropWhile isLineEnd }

/-- The name of a variable or table that is next. -/
def takeName : ReadingOf String := do
  match ← peek with
  | .name name =>
    advance
    return name
  | _ => unexpected

/-- Takes note that a name belongs to a table, or else to a variable. -/
def useAs (isTable : Bool) (name : String) : ReadingOf Unit := do
  let r ← get
  if (r.parameters.getD []).contains name then return ()
  match r.kinds.lookup name with
  | none => set { r with kinds := (name, isTable) :: r.kinds }
  | some known =>
    if known ≠ isTable then
      fail ("illegal reference to " ++ (if known then "array " else "variable ") ++ name)

/-- The name of a table that is next. -/
def takeTable : ReadingOf String := do
  let name ← takeName
  useAs true name
  return name

/-- Takes a name that is an argument of its own, and so may be one of anything. -/
def bareName? : ReadingOf (Option Expression) := do
  match ← peek, ← peekSecond with
  | .name name, .symbol text =>
    if name ≠ "length" ∧ (text = "," ∨ text = ")") then
      advance
      return some (.variable name)
    else return none
  | _, _ => return none

/-- Whether an expression has a place for a value. -/
def hasPlace : Expression → Bool
  | .variable _ | .element .. | .field _ => true
  | _ => false

/-- Whether a step after an operand that tells a field changes the operand. -/
def mayStep : Expression → Bool
  | .variable name => name = "NF"
  | .field _ => true
  | _ => false

/-- The expression of a pattern between slashes. -/
def regexOf (pattern : List Char) : ReadingOf Expression := do
  match patternOf pattern with
  | .ok regex => return .regex regex
  | .error message => fail message

/-- Reads operands with operators between, which group to the left. -/
def chain (operator? : Token → Option (Expression → Expression → Expression))
    (operand : ReadingOf Expression) : Nat → Expression → ReadingOf Expression
  | 0, left => return left
  | fuel + 1, left => do
    match operator? (← peek) with
    | none => return left
    | some make =>
      advance
      let right ← operand
      chain operator? operand fuel (make left right)

/-- The operators of a level, by their symbols. -/
def operatorIn (table : List (String × (Expression → Expression → Expression))) :
    Token → Option (Expression → Expression → Expression)
  | .symbol text => table.lookup text
  | _ => none

/-- Whether a token may start an operand that is joined to one before it. -/
def startsOperand : Token → Bool
  | .number .. | .text _ | .regex _ | .name _ | .called _ => true
  | .symbol s => s = "$" || s = "(" || s = "!" || s = "++" || s = "--"
  | _ => false

/-- Joins operands that stand side by side. -/
def joinAll (operand : ReadingOf Expression) : Nat → Expression → ReadingOf Expression
  | 0, left => return left
  | fuel + 1, left => do
    if startsOperand (← peek) then
      let right ← operand
      joinAll operand fuel (.join left right)
    else return left

/-- The symbols of assignments, with their operations. -/
def assignments : List (String × Option Operation) :=
  [("=", none), ("+=", some .add), ("-=", some .subtract), ("*=", some .multiply),
    ("/=", some .divide), ("%=", some .remainder), ("^=", some .power)]

/-- What joins two operands. -/
inductive Joint
  | oneOf
  | both
  | membership
  | matching (wanted : Bool)
  | comparison (comparison : Comparison)

namespace Joint

/-- The joint that a token is, unless a bracket to the right has another meaning. -/
def ofToken? (noGreater : Bool) : Token → Option Joint
  | .keyword word => if word = "in" then some membership else none
  | .symbol text =>
    if (text = ">" ∨ text = ">=") ∧ noGreater then none
    else
      [("||", oneOf), ("&&", both), ("~", matching true), ("!~", matching false),
        ("<", comparison .less), ("<=", comparison .atMost), ("==", comparison .equal),
        ("!=", comparison .unequal), (">=", comparison .atLeast),
        (">", comparison .greater)].lookup text
  | _ => none

/-- How closely the joint binds. -/
def level : Joint → Nat
  | oneOf => 1
  | both => 2
  | membership => 3
  | matching _ => 4
  | comparison _ => 5

end Joint

/-- The expression of a pattern that is a text between quotes is read at once. -/
def asPattern : Expression → ReadingOf Expression
  | .text s => regexOf s.toList
  | e => return e

mutual

/-- The items of a list, of which there is at least one. -/
def items : Nat → Bool → ReadingOf (List Expression)
  | 0, _ => unexpected
  | fuel + 1, noGreater => do
    let first ← expression fuel noGreater
    if ← accept "," then
      return first :: (← items fuel noGreater)
    else return [first]

/-- The arguments of a function after the opening parenthesis, with the closing one. -/
def arguments : Nat → ReadingOf (List Expression)
  | 0 => unexpected
  | fuel + 1 => do
    if ← accept ")" then return []
    let found ← items fuel false
    expect ")"
    return found

/-- The arguments of a function of the script, after the opening parenthesis, with the closing
one. -/
def callArguments : Nat → ReadingOf (List Expression)
  | 0 => unexpected
  | fuel + 1 => do
    let first ←
      match ← bareName? with
      | some e => pure e
      | none => expression fuel false
    if ← accept "," then return first :: (← callArguments fuel)
    expect ")"
    return [first]

/-- The arguments of a function that takes places or patterns, after the opening parenthesis, with
the closing one. -/
def specialArguments : Nat → BuiltIn → ReadingOf (List Expression)
  | 0, _ => unexpected
  | fuel + 1, function => do
    match function with
    | .length =>
      if ← accept ")" then return []
      let e ←
        match ← bareName? with
        | some e => pure e
        | none => expression fuel false
      expect ")"
      return [e]
    | .matchAt =>
      let text ← expression fuel false
      expect ","
      let pattern ← asPattern (← expression fuel false)
      expect ")"
      return [text, pattern]
    | .split =>
      let text ← expression fuel false
      expect ","
      let table ← takeTable
      if ← accept ")" then return [text, .variable table]
      expect ","
      let separator ← expression fuel false
      let separator ←
        match separator with
        | .text s => if 1 < s.length then asPattern separator else pure separator
        | e => pure e
      expect ")"
      return [text, .variable table, separator]
    | _ =>
      let pattern ← asPattern (← expression fuel false)
      expect ","
      let new ← expression fuel false
      if ← accept ")" then return [pattern, new]
      expect ","
      let target ← place fuel
      expect ")"
      return [pattern, new, target]

/-- An expression. -/
def expression : Nat → Bool → ReadingOf Expression
  | 0, _ => unexpected
  | fuel + 1, noGreater => do
    let first ← compound fuel 1 noGreater
    if ← accept "?" then
      let yes ← expression fuel noGreater
      expect ":"
      let no ← expression fuel noGreater
      return .choice first yes no
    else
      match ← peek with
      | .symbol text =>
        match if hasPlace first then assignments.lookup text else none with
        | some operation =>
          advance
          let value ← expression fuel noGreater
          return .assign operation first value
        | none => return first
      | _ => return first

/-- Operands with joints between that bind at least as closely as a level says. -/
def compound : Nat → Nat → Bool → ReadingOf Expression
  | 0, _, _ => unexpected
  | fuel + 1, level, noGreater => do
    let first ← joined fuel noGreater
    compoundFrom fuel level noGreater first

/-- The rest of operands with joints between. -/
def compoundFrom : Nat → Nat → Bool → Expression → ReadingOf Expression
  | 0, _, _, _ => unexpected
  | fuel + 1, level, noGreater, left => do
    match Joint.ofToken? noGreater (← peek) with
    | none => return left
    | some joint =>
      if joint.level < level then return left
      else
        advance
        let right : ReadingOf Expression := compound fuel (joint.level + 1) noGreater
        let whole ←
          match joint with
          | .oneOf => do pure (.oneOf left (← right))
          | .both => do pure (.both left (← right))
          | .matching wanted => do pure (.matching wanted left (← asPattern (← right)))
          | .comparison comparison => do pure (.compare comparison left (← right))
          | .membership =>
            let table ← takeTable
            match left with
            | .grouped es => pure (.isIn es table)
            | e => pure (.isIn [e] table)
        compoundFrom fuel level noGreater whole

/-- Texts that are joined. -/
def joined : Nat → Bool → ReadingOf Expression
  | 0, _ => unexpected
  | fuel + 1, noGreater => do
    let first ← added fuel noGreater
    joinAll (added fuel noGreater) fuel first

/-- Sums. -/
def added : Nat → Bool → ReadingOf Expression
  | 0, _ => unexpected
  | fuel + 1, noGreater => do
    let first ← multiplied fuel noGreater
    chain (operatorIn [("+", .operate .add), ("-", .operate .subtract)])
      (multiplied fuel noGreater) fuel first

/-- Products. -/
def multiplied : Nat → Bool → ReadingOf Expression
  | 0, _ => unexpected
  | fuel + 1, noGreater => do
    let first ← signed fuel noGreater
    chain (operatorIn [("*", .operate .multiply), ("/", .operate .divide),
      ("%", .operate .remainder)]) (signed fuel noGreater) fuel first

/-- An operand with signs before it. -/
def signed : Nat → Bool → ReadingOf Expression
  | 0, _ => unexpected
  | fuel + 1, noGreater => do
    if ← accept "!" then return .negation (← signed fuel noGreater)
    else if ← accept "-" then return .negative (← signed fuel noGreater)
    else if ← accept "+" then return .positive (← signed fuel noGreater)
    else
      let first ← raised fuel noGreater
      commandsRead fuel first

/-- Commands whose output is read. -/
def commandsRead : Nat → Expression → ReadingOf Expression
  | 0, left => return left
  | fuel + 1, left => do
    let isRead : Bool := match ← peekSecond with
      | .keyword word => word = "getline"
      | _ => false
    if (← isNext "|") ∧ isRead then
      advance
      advance
      let target ← readTarget fuel
      commandsRead fuel (.readCommand target left)
    else return left

/-- A power. -/
def raised : Nat → Bool → ReadingOf Expression
  | 0, _ => unexpected
  | fuel + 1, noGreater => do
    let base ← stepped fuel noGreater
    if ← accept "^" then
      let exponent ←
        if ← accept "-" then pure (.negative (← raised fuel noGreater))
        else if ← accept "+" then pure (.positive (← raised fuel noGreater))
        else if ← accept "!" then pure (.negation (← raised fuel noGreater))
        else raised fuel noGreater
      return .operate .power base exponent
    else return base

/-- An operand that may be changed by one after it is taken. -/
def stepped : Nat → Bool → ReadingOf Expression
  | 0, _ => unexpected
  | fuel + 1, noGreater => do
    let operand ← primary fuel noGreater
    if hasPlace operand then
      if ← accept "++" then return .step true true operand
      else if ← accept "--" then return .step false true operand
      else return operand
    else return operand

/-- What is read into, if something is named. -/
def readTarget : Nat → ReadingOf (Option Expression)
  | 0 => unexpected
  | fuel + 1 => do
    let isTarget : Bool := match ← peek with
      | .name _ => true
      | .symbol text => text = "$"
      | _ => false
    if isTarget then return some (← primary fuel true) else return none

/-- A place for a value. -/
def place : Nat → ReadingOf Expression
  | 0 => unexpected
  | fuel + 1 => do
    let mayStart : Bool := match ← peek with
      | .name _ => true
      | .symbol text => text = "$" || text = "("
      | _ => false
    if !mayStart then unexpected
    let operand ← primary fuel true
    if hasPlace operand then return operand else unexpected

/-- An operand that is changed by one before it is taken. -/
def steppedFirst : Nat → Bool → ReadingOf Expression
  | 0, _ => unexpected
  | fuel + 1, adds => do return .step adds false (← place fuel)

/-- An operand without operators around it. -/
def primary : Nat → Bool → ReadingOf Expression
  | 0, _ => unexpected
  | fuel + 1, noGreater => do
    match ← peek with
    | .number x _ =>
      advance
      return .number x
    | .text text =>
      advance
      return .text text
    | .regex pattern =>
      let e ← regexOf pattern
      advance
      return e
    | .name name =>
      if name ≠ "length" ∧ (BuiltIn.table.lookup name).isSome then unexpected
      advance
      if name = "length" then return .builtIn .length []
      else if ← accept "[" then
        let index ← items fuel false
        expect "]"
        useAs true name
        return .element name index
      else
        useAs false name
        return .variable name
    | .called name =>
      advance
      advance
      match BuiltIn.table.lookup name with
      | some (function, least, most) =>
        if function ∈ BuiltIn.special then
          return .builtIn function (← specialArguments fuel function)
        let found ← arguments fuel
        if found.length < least ∨ most < found.length then
          fail ("wrong number of arguments in call to " ++ name)
        return .builtIn function found
      | none =>
        let found ← if ← accept ")" then pure [] else callArguments fuel
        modify fun r => { r with called := name :: r.called }
        return .call name found
    | .keyword word =>
      if word = "getline" then
        advance
        let target ← readTarget fuel
        if ← accept "<" then return .readFile target (← raised fuel true)
        else return .readRecord target
      else unexpected
    | .symbol text =>
      if text = "$" then
        advance
        if ← accept "++" then return .field (← steppedFirst fuel true)
        else if ← accept "--" then return .field (← steppedFirst fuel false)
        else if ← accept "-" then return .field (.negative (← primary fuel noGreater))
        else
          let operand ← primary fuel noGreater
          if !mayStep operand then return .field operand
          else if ← accept "++" then return .field (.step true true operand)
          else if ← accept "--" then return .field (.step false true operand)
          else return .field operand
      else if text = "++" then
        advance
        steppedFirst fuel true
      else if text = "--" then
        advance
        steppedFirst fuel false
      else if text = "-" ∨ text = "+" ∨ text = "!" then signed fuel noGreater
      else if text = "(" then
        advance
        let found ← items fuel false
        expect ")"
        return .grouped found
      else unexpected
    | _ => unexpected

end

/-- Reads the end of a simple statement. -/
def statementEnd : ReadingOf Unit := do
  match ← peek with
  | .newLine => skipLines
  | .symbol text =>
    if text = ";" then advance else if text = "\x7d" then pure () else unexpected
  | .ending => pure ()
  | _ => unexpected

/-- What is printed, and where it goes. -/
def printed (fuel : Nat) : ReadingOf (List Expression × Option (Destination × Expression)) := do
  let isEmpty : Bool := match ← peek with
    | .newLine | .ending => true
    | .symbol text => text = ";" || text = "\x7d" || text = ">" || text = ">>" || text = "|"
    | _ => false
  let found ← if isEmpty then pure [] else items fuel true
  let found := match found with
    | [.grouped es] => es
    | es => es
  let target ←
    if ← accept ">" then pure (some (Destination.file, ← expression fuel false))
    else if ← isNext ">=" then fail "syntax error at or near ="
    else if ← accept ">>" then pure (some (Destination.append, ← expression fuel false))
    else if ← accept "|" then pure (some (Destination.command, ← joined fuel true))
    else pure none
  return (found, target)

/-- An expression, unless a statement ends at once. -/
def optional (fuel : Nat) : ReadingOf (Option Expression) := do
  let isEmpty : Bool := match ← peek with
    | .newLine | .ending => true
    | .symbol text => text = ";" || text = "\x7d" || text = ")"
    | _ => false
  if isEmpty then return none else return some (← expression fuel false)

/-- A statement without statements in it, up to its end. -/
def simple (fuel : Nat) : ReadingOf Statement := do
  match ← peek with
  | .keyword word =>
    if word = "print" then
      advance
      let (found, target) ← printed fuel
      return .print found target
    else if word = "printf" then
      advance
      let (found, target) ← printed fuel
      if found.isEmpty then fail "no arguments in call to printf"
      return .printFormat found target
    else if word = "delete" then
      advance
      let table ← takeTable
      if ← accept "[" then
        let index ← items fuel false
        expect "]"
        return .delete table (some index)
      else return .delete table none
    else if word = "getline" then return .evaluate (← expression fuel false)
    else unexpected
  | _ => return .evaluate (← expression fuel false)

/-- A statement of one word, which may have to be in something. -/
def worded (fuel : Nat) (word : String) : ReadingOf (Option Statement) := do
  if word = "next" ∨ word = "nextfile" then
    if !(← get).hasRecord then fail ("improper use of " ++ word)
    advance
    return some (if word = "next" then .next else .nextFile)
  else if word = "exit" then
    advance
    return some (.exit (← optional fuel))
  else if word = "return" then
    if (← get).parameters.isNone then fail "return outside function body"
    advance
    return some (.leave (← optional fuel))
  else if word = "break" then
    if (← get).loops = 0 then fail "break statement outside of loop"
    advance
    return some .endLoop
  else if word = "continue" then
    if (← get).loops = 0 then fail "continue statement outside of loop"
    advance
    return some .nextRound
  else return none

/-- Reads the body of a loop. -/
def inLoop (body : ReadingOf Statement) : ReadingOf Statement := do
  modify fun r => { r with loops := r.loops + 1 }
  let found ← body
  modify fun r => { r with loops := r.loops - 1 }
  return found

mutual

/-- The statements up to a closing brace, which is taken. -/
def statements : Nat → ReadingOf (List Statement)
  | 0 => unexpected
  | fuel + 1 => do
    skipLines
    if ← accept "\x7d" then return []
    let first ← statement fuel
    return first :: (← statements fuel)

/-- A statement with what ends it. -/
def statement : Nat → ReadingOf Statement
  | 0 => unexpected
  | fuel + 1 => do
    match ← peek with
    | .symbol text =>
      if text = "\x7b" then
        advance
        return .block (← statements fuel)
      else if text = ";" then
        advance
        return .nothing
      else
        let found ← simple fuel
        statementEnd
        return found
    | .keyword word =>
      if word = "if" then
        advance
        expect "("
        let condition ← expression fuel false
        expect ")"
        skipLines
        let yes ← statement fuel
        let before ← get
        skipLines
        if ← acceptWord "else" then
          return .branch condition yes (← statement fuel)
        else
          set before
          return .branch condition yes .nothing
      else if word = "while" then
        advance
        expect "("
        let condition ← expression fuel false
        expect ")"
        if ← accept ";" then return .loop condition .nothing
        skipLines
        return .loop condition (← inLoop (statement fuel))
      else if word = "do" then
        advance
        skipLines
        let body ← inLoop (statement fuel)
        skipLines
        if !(← acceptWord "while") then unexpected
        expect "("
        let condition ← expression fuel false
        expect ")"
        statementEnd
        return .loopAfter body condition
      else if word = "for" then
        advance
        expect "("
        counted fuel
      else
        match ← worded fuel word with
        | some found =>
          statementEnd
          return found
        | none =>
          let found ← simple fuel
          statementEnd
          return found
    | _ =>
      let found ← simple fuel
      statementEnd
      return found

/-- A loop over a table or with a start and a step, after the opening parenthesis. -/
def counted : Nat → ReadingOf Statement
  | 0 => unexpected
  | fuel + 1 => do
    let isEach : Bool := match ← peek, ← peekSecond with
      | .name _, .keyword word => word = "in"
      | _, _ => false
    if isEach then
      let name ← takeName
      useAs false name
      advance
      let table ← takeTable
      expect ")"
      skipLines
      return .each name table (← inLoop (statement fuel))
    else
      let start ← if ← isNext ";" then pure .nothing else simple fuel
      expect ";"
      let condition ← optional fuel
      expect ";"
      let step ← if ← isNext ")" then pure .nothing else simple fuel
      expect ")"
      if ← accept ";" then return .count start condition step .nothing
      skipLines
      return .count start condition step (← inLoop (statement fuel))

end

/-- The names of parameters up to the closing parenthesis, which is taken. -/
def parameters (function : String) : Nat → List String → ReadingOf (List String)
  | 0, _ => unexpected
  | fuel + 1, found => do
    let name ← takeName
    if name = function then fail "function parameter cannot be the function"
    if name ∈ found then fail (name ++ " is duplicated in argument list")
    if ← accept "," then parameters function fuel (found ++ [name])
    else
      expect ")"
      return found ++ [name]

/-- The statements of a rule or function. -/
def action (fuel : Nat) (hasRecord : Bool) (parameters : Option (List String)) :
    ReadingOf (List Statement) := do
  modify fun r => { r with hasRecord, loops := 0, parameters }
  expect "\x7b"
  let found ← statements fuel
  modify fun r => { r with parameters := none }
  return found

/-- Reads a function after its first word. -/
def function (fuel : Nat) (script : RecordScript) : ReadingOf RecordScript := do
  let name ← match ← peek with
    | .name name | .called name =>
      advance
      pure name
    | _ => unexpected
  expect "("
  if (script.functions.lookup name).isSome then fail ("redefinition of " ++ name)
  if ((← get).kinds.lookup name).isSome then fail ("illegal reference to variable " ++ name)
  let parameters ← if ← accept ")" then pure [] else parameters name fuel []
  skipLines
  let body ← action fuel false (some parameters)
  return { script with functions := (name, ⟨parameters, body⟩) :: script.functions }

/-- Reads a rule with a pattern, or with an action alone. -/
def rule (fuel : Nat) : ReadingOf (Trigger × List Statement) := do
  if ← isNext "\x7b" then return (.always, ← action fuel true none)
  else
    let first ← expression fuel false
    let trigger ←
      if ← accept "," then do pure (.between first (← expression fuel false))
      else pure (.at first)
    if ← isNext "\x7b" then return (trigger, ← action fuel true none)
    else
      let isEnded : Bool := match ← peek with
        | .newLine | .ending => true
        | .symbol text => text = ";"
        | _ => false
      if isEnded then return (trigger, [.print [] none]) else unexpected

/-- Reads the rest of a script. -/
def rules : Nat → RecordScript → ReadingOf RecordScript
  | 0, _ => unexpected
  | fuel + 1, script => do
    skipLines
    let isOver : Bool := match ← peek with
      | .ending => true
      | _ => false
    if isOver then return script
    let script ←
      if ← acceptWord "BEGIN" then
        let body ← action fuel false none
        pure { script with rules := script.rules ++ [(.atStart, body)] }
      else if ← acceptWord "END" then
        let body ← action fuel false none
        pure { script with rules := script.rules ++ [(.atEnd, body)] }
      else if ← acceptWord "function" then function fuel script
      else do
        let found ← rule fuel
        pure { script with rules := script.rules ++ [found] }
    discard (accept ";")
    rules fuel script

/-- The script of tokens, whose functions are all there. -/
def script : ReadingOf RecordScript := do
  let fuel := 20 * (← get).tokens.length + 100
  let found ← rules fuel ⟨[], []⟩
  match (← get).called.reverse.find? fun name => (found.functions.lookup name).isNone with
  | some name => fail ("function " ++ name ++ " never defined")
  | none => return found

end ReadingOf

/-- The names of variables and tables that all scripts have. -/
def knownNames : List (String × Bool) :=
  [("ARGV", true), ("ENVIRON", true)] ++
    ["ARGC", "CONVFMT", "FILENAME", "FNR", "FS", "NF", "NR", "OFMT", "OFS", "ORS", "RLENGTH",
      "RS", "RSTART", "SUBSEP"].map fun name => (name, false)

/-- The script that a text is, or what is wrong with it. -/
def RecordScript.ofText (text : List Char) : Except String RecordScript :=
  let start : Reading :=
    { tokens := tokens text
      called := []
      parameters := none
      hasRecord := false
      loops := 0
      kinds := knownNames }
  (ReadingOf.script.run start).map (·.1)

end PluginBuild.Shell.Record
