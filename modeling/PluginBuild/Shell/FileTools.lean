import PluginBuild.Shell.Expansion
import PluginBuild.Shell.Sources
import PluginBuild.Text.Numeral
/-!
# File tools

The utilities that make, copy, move and remove files and directories, or list them.
-/

namespace PluginBuild.Shell

open Files (Content Failure Location Node Path Store)

/-- A name in the quotes of messages. -/
def named (name : String) : String := "'" ++ name ++ "'"

/-- What is at the end of a path, if there is something. -/
def nodeAt? (files : Store) (name : String) : Option Node := (files.find (pathOf name)).toOption

/-- Whether there is a directory at the end of a path. -/
def isDirectory (files : Store) (name : String) : Bool := nodeAt? files name = some .directory

/-- What hinders the look-up of a path besides that nothing is there. -/
def hindrance? (files : Store) (name : String) : Option Failure :=
  match files.find (pathOf name) with
  | .error .notFound | .ok _ => none
  | .error failure => some failure

/-- The last name of a path, without slashes at the end. -/
def lastName (name : String) : String :=
  inBytes (((pathOf name).name?).getD (outOfBytes name))

/-- A path with a name added to it. -/
def inside (directory name : String) : String :=
  if directory.endsWith "/" then directory ++ name else directory ++ "/" ++ name

/-- Whether two paths lead to the same thing. -/
def isSame (files : Store) (a b : String) : Bool :=
  match files.locate (pathOf a), files.locate (pathOf b) with
  | .ok first, .ok second => first = second
  | _, _ => false

/-- Runs a step for every name. The exit code is one if a step fails with a message. -/
def forNames (step : Store → String → Except String Store) (names : List String) (s : State) :
    State :=
  names.foldl (fun s name =>
    match step s.files name with
    | .ok files => { s with files }
    | .error message => s.fault 1 message) (s.finish 0)

/-- Runs a utility that needs operands. -/
def withOperands (style : OptionStyle) (missing : String) (run : Arguments → State → State)
    (s : State) (arguments : List String) : State :=
  State.withArguments style 1
    (fun options s => if options.operands.isEmpty then s.misused 1 missing else run options s)
    s arguments

/-- The files with what a tree holds put at another location. -/
def copyTree (files : Store) (source target : Location) : Store :=
  let below := files.nodes.filter fun entry => source.isPrefixOf entry.1
  below.foldl (fun files entry => files.put (target ++ entry.1.drop source.length) entry.2) files

/-- The files with what a file holds put at a path. A file that is there keeps its mode. -/
def putCopy (files : Store) (content : Content) (executable : Bool) (target : Path) :
    Except Failure Store := do
  if target.endsWithSlash ∧ !files.contains target then throw .notADirectory
  let location ← files.locateFile target
  match files.node? location with
  | some .directory => throw .isADirectory
  | some (.file _ kept) => return files.put location (.file content kept)
  | none => return files.put location (.file content executable)

/-- Copies a file, or a directory if that is asked for. -/
def copyOne (options : Arguments) (target : String) (files : Store) (source : String) :
    Except String Store :=
  let recursive := ['r', 'R', 'a'].any options.has
  match files.find (pathOf source) with
  | .error failure => .error ("cannot stat " ++ named source ++ ": " ++ failure.reason)
  | .ok .directory =>
    if !recursive then .error ("-r not specified; omitting directory " ++ named source)
    else
      match files.locate (pathOf source), files.locate (pathOf target) with
      | .ok origin, .ok place =>
        if origin.isPrefixOf place then
          .error ("cannot copy a directory, " ++ named source ++ ", into itself, " ++ named target)
        else
          match files.node? place with
          | some (.file ..) =>
            .error ("cannot overwrite non-directory " ++ named target ++ " with directory " ++
              named source)
          | _ => .ok (copyTree files origin place)
      | _, .error failure | .error failure, _ =>
        .error ("cannot create directory " ++ named target ++ ": " ++ failure.reason)
  | .ok (.file content executable) =>
    if isSame files source target then
      .error (named source ++ " and " ++ named target ++ " are the same file")
    else if options.has 'n' ∧ files.contains (pathOf target) then .ok files
    else if isDirectory files target then
      .error ("cannot overwrite directory " ++ named target ++ " with non-directory")
    else
      (putCopy files content executable (pathOf target)).mapError fun failure =>
        "cannot create regular file " ++ named target ++ ": " ++ failure.reason

/-- Moves a file or directory. -/
def moveOne (options : Arguments) (target : String) (files : Store) (source : String) :
    Except String Store :=
  match files.locateEntry (pathOf source), files.find (pathOf source) with
  | .ok location, .ok node => do
    let place ← (files.locateEntry (pathOf target)).mapError fun failure =>
      "cannot move " ++ named source ++ " to " ++ named target ++ ": " ++ failure.reason
    if location = place then
      throw (named source ++ " and " ++ named target ++ " are the same file")
    else if location.isPrefixOf place then
      throw ("cannot move " ++ named source ++ " to a subdirectory of itself, " ++ named target)
    else
      match node, files.node? place with
      | .directory, some (.file ..) =>
        throw ("cannot overwrite non-directory " ++ named target ++ " with directory " ++
          named source)
      | .file .., some .directory =>
        throw ("cannot overwrite directory " ++ named target ++ " with non-directory")
      | _, there =>
        if there.isSome ∧ options.has 'n' then return files
        else if (pathOf target).endsWithSlash ∧ there.isNone ∧ node ≠ .directory then
          throw ("cannot move " ++ named source ++ " to " ++ named target ++ ": Not a directory")
        else if there = some .directory ∧ !(namesIn files place).isEmpty then
          throw ("cannot move " ++ named source ++ " to " ++ named target ++
            ": Directory not empty")
        else
          let moved := copyTree (files.removeTree place) location place
          return moved.removeTree location
  | _, .error failure | .error failure, _ =>
    .error ("cannot stat " ++ named source ++ ": " ++ failure.reason)

/-- Runs a step from each operand but the last one to the last one, or into it if that is a
directory. `told` says what is printed about a step. -/
def towards (told : String) (step : Arguments → String → Store → String → Except String Store)
    (options : Arguments) (s : State) : State :=
  let given := options.value? 't'
  let sources := if given.isSome then options.operands else options.operands.dropLast
  let target := given.getD (options.operands.getLast?.getD "")
  let into := isDirectory s.files target && !options.has 'T'
  match sources with
  | [] => s.misused 1 ("missing destination file operand after " ++ named target)
  | _ =>
    if !into ∧ (sources.length > 1 ∨ given.isSome) then
      s.fault 1 ("target " ++ named target ++ ": " ++
        (if s.files.contains (pathOf target) then "Not a directory"
          else "No such file or directory"))
    else
      sources.foldl (fun s source =>
        let target := if into then inside target (lastName source) else target
        let hindrance :=
          if s.files.contains (pathOf source) then hindrance? s.files target else none
        let done : Except String Store :=
          match hindrance with
          | some failure => .error ("cannot stat " ++ named target ++ ": " ++ failure.reason)
          | none => step options target s.files source
        match done with
        | .ok files =>
          let s := { s with files }
          if options.has 'v' then
            s.print (told ++ named source ++ " -> " ++ named target ++ "\n").toList
          else s
        | .error message => s.fault 1 message) (s.finish 0)

/-- Copies files. -/
def cp : State → List String → State :=
  withOperands ⟨['r', 'R', 'a', 'f', 'i', 'n', 'p', 'v', 'T', 'd', 'L', 'P', 'H', 'u', 'l', 's',
      'x', 'b'], ['t', 'S'],
    [("recursive", 'r'), ("archive", 'a'), ("force", 'f'), ("no-clobber", 'n'), ("verbose", 'v'),
      ("target-directory", 't'), ("no-target-directory", 'T'), ("update", 'u')], true⟩
    "missing file operand" fun options s =>
      towards "" copyOne options (if options.has 'n' then s.complain (s.name ++
        ": warning: behavior of -n is non-portable and may change in future; " ++
        "use --update=none instead") else s)

/-- Moves files. -/
def mv : State → List String → State :=
  withOperands ⟨['f', 'i', 'n', 'v', 'T', 'u', 'b'], ['t', 'S'],
    [("force", 'f'), ("no-clobber", 'n'), ("verbose", 'v'), ("target-directory", 't'),
      ("no-target-directory", 'T'), ("update", 'u')], true⟩
    "missing file operand" (towards "renamed " moveOne)

/-- The paths of what is in a tree, what is deepest first. -/
def treeBelow (files : Store) (location : Location) (shown : String) : List (String × Node) :=
  let below := files.nodes.filter fun entry => location.isPrefixOf entry.1
  (below.map fun entry =>
    ("/".intercalate (shown :: (entry.1.drop location.length).map inBytes), entry.2)).mergeSort
      fun a b => b.1 ≤ a.1

/-- Removes a file, or a directory with all that is in it. -/
def removeOne (options : Arguments) (s : State) (name : String) : State :=
  let failed (reason : String) : State :=
    s.fault 1 ("cannot remove " ++ named name ++ ": " ++ reason)
  let recursive := ['r', 'R'].any options.has
  let told (shown : String × Node) : List Char :=
    ((if shown.2 = .directory then "removed directory " else "removed ") ++ named shown.1 ++
      "\n").toList
  match s.files.locateEntry (pathOf name), s.files.find (pathOf name) with
  | .ok location, .ok node =>
    let isDot := lastName name ∈ [".", ".."] ∨ location = []
    if node = .directory ∧ !recursive ∧ !(options.has 'd' ∧ !isDot) then failed "Is a directory"
    else if isDot then
      s.fault 1 ("refusing to remove '.' or '..' directory: skipping " ++ named name)
    else if node = .directory ∧ !recursive ∧ !(namesIn s.files location).isEmpty then
      failed "Directory not empty"
    else
      let s :=
        if options.has 'v' then s.print ((treeBelow s.files location name).flatMap told) else s
      { s with files := s.files.removeTree location }
  | _, .error failure | .error failure, _ =>
    if options.has 'f' ∧ (failure = .notFound ∨ failure = .notADirectory) then s
    else failed failure.reason

/-- Removes files. -/
def rm : State → List String → State :=
  State.withArguments ⟨['r', 'R', 'f', 'i', 'I', 'v', 'd'], [],
    [("recursive", 'r'), ("force", 'f'), ("verbose", 'v'), ("dir", 'd')], true⟩ 1
    fun options s =>
      if options.operands.isEmpty then
        if options.has 'f' then s.finish 0 else s.misused 1 "missing operand"
      else options.operands.foldl (removeOne options) (s.finish 0)

/-- Makes a directory, and those above it if that is asked for. `verb` says what is done. -/
def makeOne (verb : String) (options : Arguments) (s : State) (name : String) : State :=
  let path := pathOf name
  let failed (shown : String) (failure : Failure) (s : State) : State :=
    s.fault 1 ("cannot create directory " ++ named shown ++ ": " ++ failure.reason)
  let told (shown : String) (s : State) : State :=
    if options.has 'v' then
      s.print (s.name ++ ": " ++ verb ++ " directory " ++ named shown ++ "\n").toList
    else s
  if name.isEmpty then failed name .notFound s
  else if options.has 'p' then
    let segments := name.toList.splitOn '/'
    let shown := (List.range segments.length).map fun i =>
      String.ofList (['/'].intercalate (segments.take (i + 1)))
    let missing := shown.filter fun path =>
      path ≠ "" && !path.endsWith "/" && !s.files.contains (pathOf path)
    match s.files.makeDirectories path with
    | (some failure, files) =>
      let wrong := (shown.find? fun path =>
        path ≠ "" && (nodeAt? s.files path).any (· ≠ .directory)).getD name
      failed wrong (if wrong = name then failure else .notADirectory) { s with files }
    | (none, files) => missing.foldl (fun s path => told path s) { s with files }
  else
    match s.files.locateEntry path with
    | .error failure => failed name failure s
    | .ok location =>
      if (s.files.node? location).isSome then failed name .alreadyExists s
      else told name { s with files := s.files.put location .directory }

/-- Makes directories. -/
def mkdir : State → List String → State :=
  withOperands ⟨['p', 'v', 'Z'], ['m'], [("parents", 'p'), ("verbose", 'v'), ("mode", 'm')], true⟩
    "missing operand" fun options s =>
      options.operands.foldl (makeOne "created" options) (s.finish 0)

/-- Removes an empty directory, and those above it as long as they are empty if that is asked for.
`fuel` bounds how far up that goes. -/
def removeDirectory (options : Arguments) : Nat → State → String → State
  | 0, s, _ => s
  | fuel + 1, s, name =>
    let s := if options.has 'v' then
        s.print (s.name ++ ": removing directory, " ++ named name ++ "\n").toList else s
    let failed (reason : String) : State :=
      s.fault 1 ("failed to remove " ++ named name ++ ": " ++ reason)
    match s.files.locateEntry (pathOf name), s.files.find (pathOf name) with
    | .ok location, .ok .directory =>
      if location = [] ∨ !(namesIn s.files location).isEmpty then
        if options.has '1' then s else failed "Directory not empty"
      else if lastName name ∈ [".", ".."] then failed "Invalid argument"
      else
        let s := { s with files := s.files.removeTree location }
        let above := ((pathOf name).parent?).map fun path => inBytes path.text
        match above with
        | some above =>
          if options.has 'p' ∧ above ≠ "" ∧ above ≠ "/" then removeDirectory options fuel s above
          else s
        | none => s
    | _, .ok (.file ..) => failed "Not a directory"
    | _, .error failure | .error failure, _ => failed failure.reason

/-- Removes empty directories. -/
def rmdir : State → List String → State :=
  withOperands ⟨['p', 'v', '1'], [],
    [("parents", 'p'), ("verbose", 'v'), ("ignore-fail-on-non-empty", '1')], true⟩
    "missing operand" fun options s =>
      options.operands.foldl (fun s name => removeDirectory options (name.length + 1) s name)
        (s.finish 0)

/-- Makes an empty file where there is none. -/
def touchOne (options : Arguments) (files : Store) (name : String) : Except String Store :=
  if files.contains (pathOf name) ∨ options.has 'c' then .ok files
  else if name.endsWith "/" then
    .error ("setting times of " ++ named name ++ ": " ++
      ((hindrance? files name).getD .notFound).reason)
  else
    (files.write (pathOf name) (.bytes [])).mapError fun failure =>
      "cannot touch " ++ named name ++ ": " ++ failure.reason

/-- Makes empty files where there are none. -/
def touch : State → List String → State :=
  withOperands ⟨['a', 'c', 'm', 'h', 'f'], ['d', 'r', 't'],
    [("no-create", 'c'), ("date", 'd'), ("reference", 'r')], true⟩
    "missing file operand" fun options => forNames (touchOne options) options.operands

/-- Whether a mode makes a file executable that was so or not, if the mode is one. -/
def modeRuns? (mode : String) (before : Bool) : Option Bool :=
  let letters := mode.toList
  if !letters.isEmpty ∧ letters.all fun c => '0' ≤ c && c ≤ '7' then
    some (((Text.digits? 8 letters).getD 0) % 8 % 2 = 1 ||
      ((Text.digits? 8 letters).getD 0) / 64 % 2 = 1)
  else
    (letters.splitOn ',').foldl (fun runs clause =>
      let who := clause.takeWhile fun c => c ∈ ['u', 'g', 'o', 'a']
      match runs, clause.drop who.length with
      | some runs, sign :: permissions =>
        if sign ∉ ['+', '-', '='] ∨
            !permissions.all fun c => c ∈ ['r', 'w', 'x', 'X', 's', 't', 'u', 'g', 'o'] then none
        else
          let isOwner := who.isEmpty || 'u' ∈ who || 'a' ∈ who
          let has := 'x' ∈ permissions || ('X' ∈ permissions && runs)
          some (if !isOwner then runs || (sign ≠ '-' && has)
            else if sign = '+' then runs || has
            else if sign = '-' then runs && !has
            else has)
      | _, _ => none) (some before)

/-- Sets whether a file is executable, or all files in a directory. -/
def modeOne (options : Arguments) (mode : String) (files : Store) (name : String) :
    Except String Store :=
  let changed (node : Node) : Node :=
    match node with
    | .file content runs => .file content ((modeRuns? mode runs).getD runs)
    | .directory => .directory
  match files.locate (pathOf name), files.find (pathOf name) with
  | .ok location, .ok node =>
    if options.has 'R' then
      .ok { files with nodes := files.nodes.map fun entry =>
        if location.isPrefixOf entry.1 then (entry.1, changed entry.2) else entry }
    else if location = [] then .ok files
    else .ok (files.put location (changed node))
  | _, .error failure | .error failure, _ =>
    if options.has 'f' then .ok files
    else .error ("cannot access " ++ named name ++ ": " ++ failure.reason)

/-- Sets whether files are executable. -/
def chmod (s : State) (arguments : List String) : State :=
  let isMode (argument : String) : Bool :=
    argument.startsWith "-" && (modeRuns? argument false).isSome
  let (mode, rest) : Option String × List String :=
    match arguments.find? isMode with
    | some mode => (some mode, arguments.erase mode)
    | none => (none, arguments)
  withOperands ⟨['R', 'f', 'v', 'c'], ['1'], [("recursive", 'R'), ("reference", '1')], true⟩
    (if mode.isSome then "missing operand after " ++ named (mode.getD "") else "missing operand")
    (fun options s =>
      let (mode, names) := match mode with
        | some mode => (mode, options.operands)
        | none => (options.operands.headD "", options.operands.tail)
      if names.isEmpty then s.misused 1 ("missing operand after " ++ named mode)
      else if (modeRuns? mode false).isNone then s.misused 1 ("invalid mode: " ++ named mode)
      else forNames (modeOne options mode) names s) s rest

/-- The letters of the permissions of a file or directory. -/
def modeText : Node → String
  | .directory => "drwxr-xr-x"
  | .file _ true => "-rwxr-xr-x"
  | .file _ false => "-rw-r--r--"

/-- The size of a file or directory. -/
def sizeOfNode : Node → Nat
  | .directory => 4096
  | .file content _ => content.toBytes.length

/-- A name as it is listed, with a sign for its kind if that is asked for. -/
def listedName (options : Arguments) (name : String) (node : Node) : String :=
  let name := if options.has 'Q' then "\"" ++ name ++ "\"" else name
  match node with
  | .directory => if options.has 'p' || options.has 'F' then name ++ "/" else name
  | .file _ true => if options.has 'F' then name ++ "*" else name
  | _ => name

/-- Names in the form of a list. -/
def listedNames (options : Arguments) (entries : List (String × Node)) : List Char :=
  let names := entries.map fun (name, node) => (listedName options name node).toList
  let width := ((entries.map fun (_, node) => (toString (sizeOfNode node)).length).max?).getD 1
  match options.last? ['l', 'n', 'g', 'o', 'm', '1', 'C', 'x'] with
  | some 'm' => if names.isEmpty then [] else ", ".toList.intercalate names ++ ['\n']
  | some 'C' | some 'x' => if names.isEmpty then [] else "  ".toList.intercalate names ++ ['\n']
  | some '1' | none => joinLines names
  | some _ =>
    joinLines ((entries.zip names).map fun ((_, node), name) =>
      let size := toString (sizeOfNode node)
      (modeText node ++ " 1 root root " ++
        String.ofList (List.replicate (width - size.length) ' ') ++ size ++
          " Jan  1 00:00 ").toList ++ name)

/-- The entries of a directory, in the order in which they are listed. -/
def entriesOf (options : Arguments) (files : Store) (location : Location) :
    List (String × Node) :=
  let names := namesIn files location
  let names := if options.has 'a' || options.has 'A' then names
    else names.filter (!·.startsWith ".")
  let names := if options.has 'a' then
      ([".", ".."] ++ names).mergeSort fun a b => a ≤ b else names
  let nodeOf (name : String) : Node :=
    if name = "." ∨ name = ".." then .directory
    else (files.node? (location ++ [outOfBytes name])).getD .directory
  let entries := names.map fun name => (name, nodeOf name)
  let entries := if options.has 'S' then
      entries.mergeSort fun a b => sizeOfNode b.2 ≤ sizeOfNode a.2 else entries
  if options.has 'r' then entries.reverse else entries

/-- What is listed of a directory, and of those in it if that is asked for. `fuel` bounds how deep
that goes. -/
def listing (options : Arguments) (files : Store) :
    Nat → Bool → String → Location → List (List Char)
  | 0, _, _, _ => []
  | fuel + 1, titled, shown, location =>
    let entries := entriesOf options files location
    let isLong := ['l', 'n', 'g', 'o'].any options.has
    let block := (if titled then (shown ++ ":\n").toList else []) ++
      (if isLong then ("total " ++ toString (total (entries.map fun entry =>
        (sizeOfNode entry.2 + 4095) / 4096 * 4)) ++ "\n").toList else []) ++
      listedNames options entries
    let below :=
      if options.has 'R' then
        entries.flatMap fun (name, node) =>
          if node = .directory ∧ name ≠ "." ∧ name ≠ ".." then
            listing options files fuel true (inside shown name) (location ++ [outOfBytes name])
          else []
      else []
    block :: below

/-- Lists what is in directories. -/
def ls (s : State) (arguments : List String) : State :=
  State.withArguments
    ⟨['a', 'A', '1', 'd', 'r', 'p', 'F', 'R', 'l', 'n', 'g', 'o', 'm', 'C', 'x', 'Q', 't', 'S', 'h',
      'k', 's', 'i', 'L', 'H', 'N', 'q', 'b', 'c', 'u', 'U', 'f', 'G', 'v', 'X', 'B', 'D'],
      ['I', 'w', 'T'],
      [("all", 'a'), ("almost-all", 'A'), ("directory", 'd'), ("reverse", 'r'),
        ("recursive", 'R'), ("classify", 'F'), ("quote-name", 'Q'), ("color", 'G')], true⟩ 2
    (fun options s =>
      let names := if options.operands.isEmpty then ["."] else options.operands
      let (found, s) := names.foldl (fun (found, s) name =>
        match s.files.find (pathOf name) with
        | .ok node => (found ++ [(name, node)], s)
        | .error failure =>
          (found, s.fault 2 ("cannot access " ++ named name ++ ": " ++ failure.reason)))
        (([] : List (String × Node)), s.finish 0)
      let found := found.mergeSort fun a b => a.1 ≤ b.1
      let found := if options.has 'r' then found.reverse else found
      let isListed (entry : String × Node) : Bool := entry.2 = .directory && !options.has 'd'
      let files := found.filter (!isListed ·)
      let titled := names.length > 1 || options.has 'R'
      let blocks := (found.filter isListed).flatMap fun (name, _) =>
        match s.files.locate (pathOf name) with
        | .ok location => listing options s.files 100 titled name location
        | .error _ => []
      let blocks := if files.isEmpty then blocks else listedNames options files :: blocks
      s.print (['\n'].intercalate blocks))
    s arguments

/-- Copies a file to where its name is to lead. There is nothing but files and directories here, so
that links of both kinds are copies. -/
def linkOne (options : Arguments) (target : String) (files : Store) (source : String) :
    Except String Store :=
  let kind := if options.has 's' then "symbolic link " else "hard link "
  match files.find (pathOf source) with
  | .error failure => .error ("failed to access " ++ named source ++ ": " ++ failure.reason)
  | .ok node =>
    match files.locateFile (pathOf target) with
    | .error failure =>
      .error ("failed to create " ++ kind ++ named target ++ ": " ++ failure.reason)
    | .ok location =>
      if (files.node? location).isSome ∧ !options.has 'f' then
        .error ("failed to create " ++ kind ++ named target ++ ": File exists")
      else if node = .directory ∧ !options.has 's' then
        .error (named source ++ ": hard link not allowed for directory")
      else
        match files.locate (pathOf source) with
        | .ok origin => .ok (copyTree files origin location)
        | .error _ => .ok files

/-- Makes links. -/
def ln : State → List String → State :=
  withOperands ⟨['s', 'f', 'n', 'v', 'r', 'T', 'i'], ['t'],
    [("symbolic", 's'), ("force", 'f'), ("verbose", 'v')], true⟩ "missing file operand"
    (towards "" linkOne)

/-! ### Installing -/

/-- Makes a directory and those above it. -/
def makeAll (options : Arguments) (s : State) (name : String) : State :=
  makeOne "creating" { options with options := ('p', "") :: options.options } s name

/-- Makes the directories above a path. -/
def makeAbove (options : Arguments) (name : String) (s : State) : State :=
  match (pathOf name).parent? with
  | none => s
  | some parent =>
    let above := inBytes parent.text
    if above.isEmpty ∨ s.files.contains (pathOf above) then s else makeAll options s above

/-- Copies a file to a path and sets its mode. -/
def installOne (mode : String) (target : String) (files : Store)
    (source : String) : Except String Store := do
  let copied ←
    match files.find (pathOf source) with
    | .ok .directory => throw ("omitting directory " ++ named source)
    | _ => copyOne ⟨[], []⟩ target files source
  modeOne ⟨[], []⟩ mode copied target

/-- Copies files and sets their modes, or makes directories. -/
def installFiles : State → List String → State :=
  State.withArguments ⟨['b', 'c', 'C', 'd', 'D', 'p', 's', 'T', 'v'], ['m', 'o', 'g', 't', 'S'],
    [("directory", 'd'), ("mode", 'm'), ("owner", 'o'), ("group", 'g'), ("target-directory", 't'),
      ("no-target-directory", 'T'), ("verbose", 'v'), ("preserve-timestamps", 'p'),
      ("compare", 'C')], true⟩ 1
    fun options s =>
      let mode := (options.value? 'm').getD "755"
      if (modeRuns? mode false).isNone then s.fault 1 ("invalid mode " ++ named mode)
      else if options.operands.isEmpty then s.misused 1 "missing file operand"
      else if options.has 'd' then
        options.operands.foldl (makeAll options) (s.finish 0)
      else
        let s := s.finish 0
        let s :=
          if !options.has 'D' then s
          else
            match options.value? 't', options.operands.getLast? with
            | some directory, _ =>
              if isDirectory s.files directory then s
              else makeAll options s directory
            | none, some target => makeAbove options target s
            | none, none => s
        let step (_ : Arguments) (target : String) (files : Store) (source : String) :
            Except String Store := installOne mode target files source
        if s.status ≠ 0 then s
        else towards "" step options s

/-- Removes the name of a file. -/
def removeName : State → List String → State :=
  withOperands ⟨[], [], [], true⟩ "missing operand" fun options s =>
    match options.operands with
    | [name] =>
      match s.files.locateEntry (pathOf name), s.files.find (pathOf name) with
      | .ok _, .ok .directory =>
        s.fault 1 ("cannot unlink " ++ named name ++ ": Is a directory")
      | .ok location, .ok _ =>
        { s with files := s.files.removeTree location }.finish 0
      | .error failure, _ | _, .error failure =>
        s.fault 1 ("cannot unlink " ++ named name ++ ": " ++ failure.reason)
    | _ => s.misused 1 ("extra operand " ++ named (options.operands.getD 1 ""))

end PluginBuild.Shell
