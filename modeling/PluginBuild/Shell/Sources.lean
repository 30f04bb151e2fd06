import PluginBuild.Shell.Arguments
import PluginBuild.Shell.Streams
/-!
# What utilities read

The files that the operands of a utility name, or its input.
-/

namespace PluginBuild.Shell

open Files (Content Failure Location Path Store)

/-- What a utility has read, and where it comes from. A dash stands for the input. -/
structure Source where
  name : String
  text : List Char

/-- A name in quotes if it has characters with a meaning. -/
def quotedIfNeeded (name : String) : String :=
  let isSpecial (c : Char) : Bool :=
    isSpace c || c ∈ ['\'', '"', '$', '*', '?', ';', '&', '|', '(', ')', '<', '>', '`', '\\', '!',
      '[', ']', '#', ':', '=', '^', '~', '\x7b', '\x7d']
  if name.isEmpty ∨ name.toList.any isSpecial then "'" ++ name ++ "'" else name

/-- How most utilities say that a file cannot be read. -/
def plainly (name : String) (failure : Failure) : String :=
  quotedIfNeeded name ++ ": " ++ failure.reason

/-- How some utilities say that a file cannot be read. -/
def atOpening (name : String) (failure : Failure) : String :=
  if failure = .isADirectory then "error reading '" ++ name ++ "': Is a directory"
  else "cannot open '" ++ name ++ "' for reading: " ++ failure.reason

namespace State

/-- The text of the file of a name, or of the input, and the state after it has been read. -/
def readSource (name : String) (s : State) : Except Failure (List Char) × State :=
  match if name = "-" then some 0 else systemStream? name with
  | some number =>
    match s.stream? number with
    | some (_, .directory) => (.error .isADirectory, s)
    | _ => (.ok (ofBytes (s.left number)), s.leave number [])
  | none => ((s.files.read (pathOf name)).map fun content => ofBytes content.toBytes, s)

/-- What operands name, or else the input. What cannot be read is complained about as `worded`
says. The result tells also whether all could be read. -/
def readSources (worded : String → Failure → String) (names : List String) (s : State) :
    List Source × Bool × State :=
  (if names.isEmpty then ["-"] else names).foldl (fun (sources, good, s) name =>
    match s.readSource name with
    | (.ok text, s) => (sources ++ [⟨name, text⟩], good, s)
    | (.error failure, s) => (sources, false, s.complain (s.name ++ ": " ++ worded name failure)))
    ([], true, s)

/-- Runs a utility with the options and operands of its arguments. -/
def withArguments (style : OptionStyle) (misuse : Nat) (run : Arguments → State → State)
    (s : State) (arguments : List String) : State :=
  match Arguments.read style arguments with
  | .ok arguments => run arguments s
  | .error message => s.misused misuse message

/-- The state with a file that holds a text. A file that is there keeps its mode. -/
def save (name : String) (text : List Char) (s : State) : Except Failure State :=
  match systemStream? name with
  | some number => .ok (s.write number (toBytes text))
  | none =>
    if name = "/dev/null" then .ok s
    else (s.files.write (pathOf name) (.bytes (toBytes text))).map fun files => { s with files }

end State

end PluginBuild.Shell
