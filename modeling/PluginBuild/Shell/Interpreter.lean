import PluginBuild.Shell.State
import PluginBuild.Shell.System
/-!
# Files that are run

A file that is run is a program of the system, or its first line names the program that runs it.
-/

namespace PluginBuild.Shell

open Files (Failure Location Node)

/-- The number of bytes at the start of a file that tell how it is run. -/
def headSize : Nat := 256

/-- How often a file may be run by one that is itself run by another. -/
def runDepth : Nat := 5

/-- What the first line of a file names to run it, with an argument. -/
structure Interpreter where
  path : String
  argument : Option String

namespace Interpreter

/-- Whether a character is a blank of the first line. -/
def isBlank (c : Char) : Bool := c = ' ' || c = '\t'

/-- Whether a character ends a name in the first line. -/
def endsName (c : Char) : Bool := isBlank c || c = '\x00'

/-- A text without the blanks at its start. -/
def trimStart (s : List Char) : List Char := s.dropWhile isBlank

/-- A text without the blanks at its end. -/
def trimEnd (s : List Char) : List Char := (s.reverse.dropWhile isBlank).reverse

/-- The interpreter that a line names after the sign that it starts with. All that follows the name
is one argument. -/
def ofLine (line : List Char) : Interpreter :=
  let line := trimStart line
  let name := line.takeWhile (!endsName ·)
  let rest := line.drop name.length
  let argument := trimStart rest
  let isThere := rest.head?.any isBlank && !argument.isEmpty
  ⟨String.ofList name,
    if isThere then some (String.ofList (argument.takeWhile (· ≠ '\x00'))) else none⟩

/-- The interpreter that the first line of a text names, unless the text is none to be run. A line
that ends nowhere has to end the name. -/
def ofText (text : List Char) : Except Failure Interpreter :=
  match text with
  | '#' :: '!' :: rest =>
    let size := headSize - 2
    let head := rest.take size ++ List.replicate (size - rest.length) '\x00'
    let line := head.takeWhile fun c => c ≠ '\n' && c ≠ '\x00'
    if (head.drop line.length).head? = some '\n' then
      if line.all isBlank then .error .unknownFormat else .ok (ofLine (trimEnd line))
    else if (trimStart head).all (!endsName ·) then .error .unknownFormat
    else .ok (ofLine (trimEnd (head.take (size - 1))))
  | _ => .error .unknownFormat

end Interpreter

/-- A program of the system that is run. -/
structure Program where
  /-- The name by which the system knows the program. -/
  system : String
  /-- The name by which the program is run. -/
  name : String
  arguments : List String

namespace State

/-- The text of a file that may be run, with its location. -/
def executable (s : State) (path : String) : Except Failure (Location × List Char) := do
  let location ← s.files.locate (pathOf path)
  match ← s.files.find (pathOf path) with
  | .file content true => return (location, ofBytes content.toBytes)
  | .file _ false | .directory => throw .permissionDenied

/-- The program that runs the file at a path. `depth` bounds how many files are run by others. -/
def programAt (s : State) : Nat → String → String → List String → Except Failure Program
  | depth, path, name, arguments => do
    if path.isEmpty then throw .permissionDenied
    let (location, text) ← s.executable path
    match System.program? location with
    | some system => return ⟨system, name, arguments⟩
    | none =>
      let interpreter ← Interpreter.ofText text
      let arguments := interpreter.argument.toList ++ path :: arguments
      match depth with
      | 0 =>
        discard (s.executable interpreter.path)
        throw .tooManyLevels
      | depth + 1 => programAt s depth interpreter.path interpreter.path arguments

/-- The paths of programs of a name in the directories that are searched. -/
def searchedPaths (search name : String) : List String :=
  (splitAt ':' search.toList).map fun directory =>
    if directory.isEmpty then name else String.ofList directory ++ "/" ++ name

/-- The path of the program of a name. A name with a slash is a path. -/
def programPath (s : State) (search name : String) : Except Failure String :=
  if '/' ∈ name.toList then .ok name
  else if Files.Path.longestName < name.length then .error .nameTooLong
  else
    let paths := searchedPaths search name
    match paths.find? fun path => (s.executable path).isOk with
    | some path => .ok path
    | none =>
      .error (if paths.any fun path => s.files.contains (pathOf path) then .permissionDenied
        else .notFound)

/-- The directories that are searched for programs. -/
def search (s : State) : String := (s.value? "PATH").getD searchPath

end State

end PluginBuild.Shell
