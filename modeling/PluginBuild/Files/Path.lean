import PluginBuild.Files.Failure
import PluginBuild.Text.Unprintable
/-!
# Paths

Paths as their text, with slashes between the segments. A trailing slash and a segment of one dot
say nothing; a leading dot segment stays.
-/

namespace PluginBuild.Files

/-- A path. -/
structure Path where
  text : String
deriving DecidableEq

namespace Path

/-- The text in quotes, for messages. -/
def quoted (p : Path) : String := Text.quoted p.text

/-- Whether the path starts at the root. -/
def isAbsolute (p : Path) : Bool := p.text.toList.head? == some '/'

/-- The segments between the slashes, in order. Two slashes in a row have an empty one between
them. -/
def segments (p : Path) : List String := (p.text.toList.splitOn '/').map String.ofList

/-- The number of bytes that a name may take. -/
def longestName : Nat := 255

/-- The number of bytes that a path may take. -/
def longest : Nat := 4095

/-- Why a system cannot follow the path, wherever it leads. No name holds a null character. -/
def fault? (p : Path) : Option Failure :=
  if '\x00' ∈ p.text.toList then some .invalidName
  else if longest < p.text.utf8ByteSize then some .nameTooLong
  else none

/-- Whether the last segment is a name, and neither a dot segment nor the root. -/
def endsInName (p : Path) : Bool :=
  (p.segments.filter (· ≠ "")).getLast?.any fun segment => segment ≠ "." && segment ≠ ".."

/-- Whether the path ends with a slash. -/
def endsWithSlash (p : Path) : Bool := p.text.toList.getLast? == some '/'

/-- The path without slashes at its end, but for that of the root. -/
def withoutEndSlash (p : Path) : Path :=
  let rest := (p.text.toList.reverse.dropWhile (· = '/')).reverse
  if rest.isEmpty ∧ p.isAbsolute then ⟨"/"⟩ else ⟨String.ofList rest⟩

/-- A reversed text without trailing slashes and dot segments. The slash of the root stays. -/
def dropEndReversed : List Char → List Char
  | '/' :: '/' :: rest => dropEndReversed ('/' :: rest)
  | '/' :: '.' :: '/' :: rest => dropEndReversed ('.' :: '/' :: rest)
  | ['/'] => ['/']
  | '/' :: rest => rest
  | '.' :: '/' :: rest => dropEndReversed ('/' :: rest)
  | s => s

/-- The text without trailing slashes and dot segments. -/
def dropEnd (s : List Char) : List Char := (dropEndReversed s.reverse).reverse

/-- The text before the last segment and the last segment. -/
def cutLast (s : List Char) : List Char × List Char :=
  let reversed := (dropEnd s).reverse
  ((reversed.dropWhile (· ≠ '/')).reverse, (reversed.takeWhile (· ≠ '/')).reverse)

/-- The name of what the path leads to. Paths that end at the root, at the directory itself or one
up have none. -/
def name? (p : Path) : Option String :=
  let last := (cutLast p.text.toList).2
  if last.isEmpty ∨ last = ['.'] ∨ last = ['.', '.'] then none else some (String.ofList last)

/-- The path without its last segment. The root and the empty path have no parent. -/
def parent? (p : Path) : Option Path :=
  let cut := cutLast p.text.toList
  if cut.2.isEmpty then none else some ⟨String.ofList (dropEnd cut.1)⟩

/-- A name cut at its last dot. A dot at the start of a name does not cut it. -/
def cutName (name : List Char) : List Char × Option (List Char) :=
  let reversed := name.reverse
  let stem := ((reversed.dropWhile (· ≠ '.')).drop 1).reverse
  if stem.isEmpty then (name, none) else (stem, some (reversed.takeWhile (· ≠ '.')).reverse)

/-- The name without what follows its last dot. -/
def stem? (p : Path) : Option String :=
  p.name?.map fun name => String.ofList (cutName name.toList).1

/-- What follows the last dot of the name. -/
def extension? (p : Path) : Option String :=
  p.name?.bind fun name => (cutName name.toList).2.map String.ofList

/-- The path `other` as seen from `p`. An absolute path stays as it is. -/
def join (p other : Path) : Path :=
  if other.isAbsolute then other
  else if p.text.isEmpty || p.text.toList.getLast? = some '/' then ⟨p.text ++ other.text⟩
  else ⟨p.text ++ "/" ++ other.text⟩

/-- The path with another extension. A path without a name stays as it is. -/
def withExtension (p : Path) (extension : String) : Path :=
  match p.stem? with
  | none => p
  | some stem =>
    ⟨String.ofList (cutLast p.text.toList).1 ++ stem ++
      (if extension.isEmpty then "" else "." ++ extension)⟩

/-- The path with another name. -/
def withName (p : Path) (name : String) : Path :=
  match p.name? with
  | none => p.join ⟨name⟩
  | some _ => ((p.parent?).getD ⟨""⟩).join ⟨name⟩

end Path

end PluginBuild.Files
