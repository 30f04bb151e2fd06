/-!
# Shell scripts

The commands of a script and the words that they are made of.
-/

namespace PluginBuild.Shell

/-- What is done with the value of a parameter. In operations with an operand, `whenEmpty` tells
whether an empty value counts as a missing one. -/
inductive Operation
  | value
  | length
  /-- The operand stands for a missing value. -/
  | otherwise (whenEmpty : Bool)
  /-- The operand becomes the value where there is none. -/
  | assign (whenEmpty : Bool)
  /-- The operand says what is wrong with a missing value. -/
  | require (whenEmpty : Bool)
  /-- The operand stands for a value that is not missing. -/
  | instead (whenEmpty : Bool)
  /-- The start that the pattern fits is left out. -/
  | dropStart (longest : Bool)
  /-- The end that the pattern fits is left out. -/
  | dropEnd (longest : Bool)
  /-- There is no such operation. -/
  | unknown
deriving DecidableEq

/-- What is done with a stream. -/
inductive Redirection
  | read
  | write
  /-- Writes also where files are not to be lost. -/
  | overwrite
  | append
  | readWrite
  /-- Leads where another stream leads. -/
  | duplicate
  /-- Reads a text that stands in the script. -/
  | document
deriving DecidableEq

mutual

/-- A part of a word. -/
inductive Part
  /-- Characters that stand for themselves. -/
  | literal (text : List Char) (quoted : Bool)
  | parameter (name : String) (operation : Operation) (operand : List Part) (quoted : Bool)
  /-- What a script prints. -/
  | output (script : Script) (quoted : Bool)
  /-- The value of an expression. -/
  | number (expression : List Part) (quoted : Bool)

/-- A redirection of a stream. -/
inductive Redirect
  | mk (stream : Nat) (redirection : Redirection) (target : List Part)

/-- A script. Numbers are those of lines. -/
inductive Script
  | nothing
  /-- Assignments, then the words of a command. -/
  | simple (line : Nat) (assignments : List (String × List Part)) (words : List (List Part))
      (redirects : List Redirect)
  | redirected (line : Nat) (script : Script) (redirects : List Redirect)
  /-- Every script reads what the one before it writes. -/
  | pipe (scripts : List Script)
  /-- Nobody waits for the end of the script. -/
  | background (script : Script)
  | negated (script : Script)
  | sequence (first second : Script)
  /-- The second script runs if the first one succeeds. -/
  | andThen (first second : Script)
  /-- The second script runs if the first one fails. -/
  | orElse (first second : Script)
  | branch (condition yes no : Script)
  /-- The body runs while the condition ends as `goOn` says. -/
  | loop (goOn : Bool) (condition body : Script)
  /-- The body runs for each word, or for each argument where no words are given. -/
  | each (line : Nat) (name : String) (words : Option (List (List Part))) (body : Script)
  /-- The first script runs of which a pattern fits the word. -/
  | choose (line : Nat) (word : List Part) (arms : List (List (List Part) × Script))
  /-- Nothing but files and output comes out of the script. -/
  | subshell (line : Nat) (script : Script) (redirects : List Redirect)
  | define (name : String) (body : Script)

end

/-- A word of a script. -/
abbrev Word := List Part

namespace Word

/-- The text of a word that is written without quotes and stands for itself. -/
def plain? : Word → Option (List Char)
  | [] => some []
  | .literal text false :: rest => (plain? rest).map (text ++ ·)
  | _ => none

end Word

/-- The characters that names start with. -/
def isNameStart (c : Char) : Bool := c.isAlpha || c = '_'

/-- The characters of names. -/
def isNamePart (c : Char) : Bool := c.isAlphanum || c = '_'

/-- Whether a text is a name. -/
def isName : List Char → Bool
  | [] => false
  | c :: rest => isNameStart c && rest.all isNamePart

/-- The name and the value of an assignment. -/
def assignment? : Word → Option (String × Word)
  | .literal text false :: rest =>
    let name := text.takeWhile (· ≠ '=')
    match text.dropWhile (· ≠ '=') with
    | '=' :: value =>
      if isName name then
        some (String.ofList name, if value.isEmpty then rest else .literal value false :: rest)
      else none
    | _ => none
  | _ => none

end PluginBuild.Shell
