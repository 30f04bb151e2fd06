import PluginBuild.Shell.Regex
/-!
# Record scripts

Scripts that run for each record of their input: rules with patterns and actions, over fields,
variables and tables.
-/

namespace PluginBuild.Shell.Record

/-- An operation on numbers. -/
inductive Operation
  | add
  | subtract
  | multiply
  | divide
  | remainder
  | power
deriving DecidableEq

/-- A comparison of values. -/
inductive Comparison
  | less
  | atMost
  | equal
  | unequal
  | atLeast
  | greater
deriving DecidableEq

/-- A function that all scripts have. -/
inductive BuiltIn
  | index
  | substring
  | format
  | sine
  | cosine
  | arctangent
  | logarithm
  | exponential
  | whole
  | root
  | random
  | seed
  | close
  | system
  | upper
  | lower
  | flush
  | length
  | matchAt
  | split
  | replaceFirst
  | replaceAll
  | now
  | timeOf
  | timeText
deriving DecidableEq

namespace BuiltIn

/-- The functions with their names and the least and largest numbers of their arguments. -/
def table : List (String × BuiltIn × Nat × Nat) :=
  [("index", .index, 2, 2), ("substr", .substring, 2, 3), ("sprintf", .format, 1, 1000),
    ("sin", .sine, 1, 1), ("cos", .cosine, 1, 1), ("atan2", .arctangent, 2, 2),
    ("log", .logarithm, 1, 1), ("exp", .exponential, 1, 1), ("int", .whole, 1, 1),
    ("sqrt", .root, 1, 1), ("rand", .random, 0, 0), ("srand", .seed, 0, 1),
    ("close", .close, 1, 1), ("system", .system, 1, 1), ("toupper", .upper, 1, 1),
    ("tolower", .lower, 1, 1), ("fflush", .flush, 0, 1), ("length", .length, 0, 1),
    ("match", .matchAt, 2, 2), ("split", .split, 2, 3), ("sub", .replaceFirst, 2, 3),
    ("gsub", .replaceAll, 2, 3), ("systime", .now, 0, 0), ("mktime", .timeOf, 1, 1),
    ("strftime", .timeText, 0, 3)]

/-- The functions that take places or patterns. -/
def special : List BuiltIn := [length, matchAt, split, replaceFirst, replaceAll]

end BuiltIn

/-- An expression. -/
inductive Expression
  | number (value : Float)
  | text (value : String)
  /-- A regular expression, which stands for whether it matches the record. -/
  | regex (regex : Regex)
  | variable (name : String)
  | element (table : String) (index : List Expression)
  | field (index : Expression)
  /-- Several expressions in parentheses. -/
  | grouped (items : List Expression)
  | assign (operation : Option Operation) (target value : Expression)
  /-- Adds one or subtracts it. The value is that from before, or that from after. -/
  | step (adds isAfter : Bool) (target : Expression)
  | choice (condition yes no : Expression)
  | both (first second : Expression)
  | oneOf (first second : Expression)
  | negation (e : Expression)
  | negative (e : Expression)
  | positive (e : Expression)
  | operate (operation : Operation) (first second : Expression)
  | compare (comparison : Comparison) (first second : Expression)
  | join (first second : Expression)
  | matching (wanted : Bool) (text pattern : Expression)
  | isIn (index : List Expression) (table : String)
  | call (name : String) (arguments : List Expression)
  | builtIn (function : BuiltIn) (arguments : List Expression)
  /-- Reads the next record of the input. -/
  | readRecord (target : Option Expression)
  | readFile (target : Option Expression) (name : Expression)
  | readCommand (target : Option Expression) (command : Expression)

/-- Where something is printed besides the output. -/
inductive Destination
  | file
  | append
  | command
deriving DecidableEq

/-- A statement. -/
inductive Statement
  | nothing
  | evaluate (e : Expression)
  | print (items : List Expression) (target : Option (Destination × Expression))
  | printFormat (items : List Expression) (target : Option (Destination × Expression))
  | block (statements : List Statement)
  | branch (condition : Expression) (yes no : Statement)
  | loop (condition : Expression) (body : Statement)
  | loopAfter (body : Statement) (condition : Expression)
  | count (start : Statement) (condition : Option Expression) (step body : Statement)
  | each (name table : String) (body : Statement)
  | next
  | nextFile
  | exit (status : Option Expression)
  | leave (value : Option Expression)
  | endLoop
  | nextRound
  | delete (table : String) (index : Option (List Expression))

/-- When the action of a rule runs. -/
inductive Trigger
  | atStart
  | atEnd
  | always
  | at (condition : Expression)
  /-- From a record to one after it. -/
  | between (first last : Expression)

/-- A function of a script. -/
structure Function where
  parameters : List String
  body : List Statement

/-- A script. -/
structure RecordScript where
  rules : List (Trigger × List Statement)
  functions : List (String × Function)

end PluginBuild.Shell.Record
