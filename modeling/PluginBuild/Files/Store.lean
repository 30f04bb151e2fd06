import PluginBuild.Files.Archive
import PluginBuild.Files.Path
/-!
# Stores

A tree of directories and files, and a directory in it from which relative paths lead. Operations
fail as those of a POSIX system do for an owner who may read and write everywhere.
-/

namespace PluginBuild.Files

/-- The names on the way from the root to a file or directory. -/
abbrev Location := List String

/-- What a file holds. -/
inductive Content
  | bytes (bytes : List UInt8)
  | archive (archive : Archive)
deriving DecidableEq

/-- The bytes of a file. -/
def Content.toBytes : Content → List UInt8
  | bytes b => b
  | archive a => a.toBytes

/-- The file that holds a text. -/
def Content.ofText (text : List Char) : Content := .bytes (Text.encode text)

/-- A file or directory. -/
inductive Node
  | directory
  | file (content : Content) (executable : Bool)
deriving DecidableEq

/-- Files and directories by their locations. The root is a directory. -/
structure Store where
  workingDirectory : Location
  nodes : List (Location × Node)

namespace Store

/-- What is at a location. -/
def node? (s : Store) (location : Location) : Option Node :=
  if location = [] then some .directory else s.nodes.lookup location

/-- The store with something put at a location. -/
def put (s : Store) (location : Location) (node : Node) : Store :=
  { s with nodes := (location, node) :: s.nodes.filter (·.1 ≠ location) }

/-- The store without what is at a location and below it. -/
def removeTree (s : Store) (location : Location) : Store :=
  { s with nodes := s.nodes.filter fun entry => !location.isPrefixOf entry.1 }

/-- What is put at a location is there, and all else stays. -/
theorem node?_put (s : Store) {location other : Location} {node : Node} (h : location ≠ []) :
    (s.put location node).node? other = if other = location then some node else s.node? other := by
  unfold node? put
  by_cases ho : other = []
  · subst ho; simp [Ne.symm h]
  · simp only [ho, if_false]
    by_cases heq : other = location
    · simp [heq]
    · simp only [heq, if_false, List.lookup_cons, beq_eq_false_iff_ne.2 heq]
      induction s.nodes with
      | nil => rfl
      | cons entry rest ih =>
        by_cases he : entry.1 = location
        · rw [List.filter_cons_of_neg (by simp [he]), ih, List.lookup_cons,
            beq_eq_false_iff_ne.2 (fun h' => heq (h'.trans he))]
        · rw [List.filter_cons_of_pos (by simp [he]), List.lookup_cons, List.lookup_cons, ih]

/-- The location to which segments lead from a directory. Every segment has to lead on from a
directory; only what is at the end may be missing. -/
def walk (s : Store) (location : Location) : List String → Except Failure Location
  | [] => .ok location
  | segment :: rest =>
    match s.node? location with
    | none => .error .notFound
    | some (.file ..) => .error .notADirectory
    | some .directory =>
      if segment = "" ∨ segment = "." then s.walk location rest
      else if segment = ".." then s.walk location.dropLast rest
      else if Path.longestName < segment.utf8ByteSize then .error .nameTooLong
      else s.walk (location ++ [segment]) rest

/-- Where a path starts. -/
def start (s : Store) (p : Path) : Location := if p.isAbsolute then [] else s.workingDirectory

/-- The path of the working directory. -/
def workingPath (s : Store) : Path := ⟨"/" ++ "/".intercalate s.workingDirectory⟩

/-- The location to which a path leads. -/
def locate (s : Store) (p : Path) : Except Failure Location :=
  match p.fault? with
  | some failure => .error failure
  | none => if p.text = "" then .error .notFound else s.walk (s.start p) p.segments

/-- What a path leads to. -/
def find (s : Store) (p : Path) : Except Failure Node := do
  match s.node? (← s.locate p) with
  | some node => .ok node
  | none => .error .notFound

/-- Whether a path leads to something. -/
def contains (s : Store) (p : Path) : Bool := (s.find p).isOk

/-- What the file holds that a path leads to. -/
def read (s : Store) (p : Path) : Except Failure Content := do
  match ← s.find p with
  | .directory => .error .isADirectory
  | .file content _ => .ok content

/-- The text of the file that a path leads to. -/
def readText (s : Store) (p : Path) : Except Failure (List Char) := do
  match Text.decode? (← s.read p).toBytes with
  | some text => .ok text
  | none => .error .invalidData

/-- The location of what a path leads to if slashes at its end do not count. -/
def locateEntry (s : Store) (p : Path) : Except Failure Location :=
  match p.fault? with
  | some failure => .error failure
  | none => s.locate p.withoutEndSlash

/-- The location of a file to be written. A path that ends with a slash is none of a file. -/
def locateFile (s : Store) (p : Path) : Except Failure Location :=
  if p.endsWithSlash then (s.locateEntry p).bind fun _ => .error .isADirectory
  else s.locate p

/-- The store with a file written. A file that is there keeps its mode. -/
def write (s : Store) (p : Path) (content : Content) : Except Failure Store := do
  let location ← s.locateFile p
  match s.node? location with
  | some .directory => .error .isADirectory
  | some (.file _ executable) => .ok (s.put location (.file content executable))
  | none => .ok (s.put location (.file content false))

/-- The store with a file put in the place of what a path leads to, which is no directory. -/
def replace (s : Store) (p : Path) (content : Content) : Except Failure Store := do
  let location ← s.locateEntry p
  if !p.endsInName then .error .busy
  else if p.endsWithSlash then .error .notADirectory
  else if s.node? location = some .directory then .error .isADirectory
  else .ok (s.put location (.file content false))

/-- The store with the directories made to which the segments lead from a directory, and what is in
the way. `made` tells whether one has been made before: what is in the way then is met as the end
of a shorter path. -/
def makeAlong (s : Store) (made : Bool) (location : Location) :
    List String → Option Failure × Store
  | [] => (none, s)
  | segment :: rest =>
    if segment = "" ∨ segment = "." then s.makeAlong made location rest
    else if segment = ".." then s.makeAlong made location.dropLast rest
    else if Path.longestName < segment.utf8ByteSize then (some .nameTooLong, s)
    else
      let next := location ++ [segment]
      match s.node? next with
      | some .directory => s.makeAlong made next rest
      | none => (s.put next .directory).makeAlong true next rest
      | some (.file ..) =>
        (some (if made ∨ rest.all (· = "") then .alreadyExists else .notADirectory), s)

/-- The store with the directories made to which a path leads, and what is in the way. -/
def makeDirectories (s : Store) (p : Path) : Option Failure × Store :=
  match p.fault? with
  | some failure => (some failure, s)
  | none => s.makeAlong false (s.start p) p.segments

end Store

end PluginBuild.Files
