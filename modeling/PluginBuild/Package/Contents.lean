import PluginBuild.Digest.Md5
import PluginBuild.Error
import PluginBuild.Files.Store
import PluginBuild.Package.Manifest
/-!
# Contents of a package

What goes into a package: the native modules, the managed assembly with its debug symbols, the
files it refers to and the manifest, in this order. A file that may be missing, and a file with the
name of an earlier one, is passed over with a warning.
-/

namespace PluginBuild.Package

open Files (Path Store Entry)

/-- A native module. -/
structure NativeModule where
  architecture : Architecture
  path : Path
deriving DecidableEq

/-- What a package is made of. -/
structure Inputs where
  /-- The native modules. The first one has to be there. -/
  modules : List NativeModule
  managed : Path
  /-- The files that the managed assembly refers to. -/
  references : List Path
  manifest : Manifest
deriving DecidableEq

/-- Whether two texts are the same but for the case of ASCII letters. -/
def sameName (a b : String) : Bool := Text.asciiLower a.toList = Text.asciiLower b.toList

/-- Whether a path leads to a documentation file. -/
def isDocumentation (path : Path) : Bool :=
  path.extension?.any fun extension => sameName extension "xml"

/-- Whether a reference goes into the package: neither documentation nor the assembly of the base
classes does, which the host has. -/
def isBundled (sdk : String) (path : Path) : Bool :=
  !isDocumentation path && !sameName (path.stem?.getD "") sdk

/-- A file that may go into a package. -/
structure Candidate where
  path : Path
  /-- The name of its entry. A path without a name cannot be packed. -/
  name : Option String
  /-- The warning where the file is missing. A file without one has to be there. -/
  warning : Option String
deriving DecidableEq

namespace Inputs

/-- The name of the entry of a native module. -/
def moduleName (inputs : Inputs) (architecture : Architecture) : String :=
  inputs.manifest.name ++ "." ++ inputs.manifest.kind.extension architecture

/-- The warning where a native module is missing. -/
def moduleWarning (module : NativeModule) : String :=
  module.architecture.name ++ " wrapper " ++ module.path.quoted ++ " not found, skipped"

/-- The debug symbols of the managed assembly. -/
def symbols (inputs : Inputs) : Path := inputs.managed.withExtension "pdb"

/-- The native modules as candidates. All but the first may be missing. -/
def moduleCandidates (inputs : Inputs) : List Candidate :=
  inputs.modules.zipIdx.map fun (module, index) =>
    ⟨module.path, some (inputs.moduleName module.architecture),
      if index = 0 then none else some (moduleWarning module)⟩

/-- The candidates for the package of a plugin that has the base classes of `sdk`. -/
def candidates (inputs : Inputs) (sdk : String) : List Candidate :=
  inputs.moduleCandidates ++
    [⟨inputs.managed, inputs.managed.name?, none⟩,
      ⟨inputs.symbols, inputs.symbols.name?,
        some ("debug symbols " ++ inputs.symbols.quoted ++ " not found")⟩] ++
    (inputs.references.filter (isBundled sdk)).map fun reference =>
      ⟨reference, reference.name?, some ("reference " ++ reference.quoted ++ " not found, skipped")⟩

end Inputs

/-- What has been packed, and the warnings on the way. -/
structure Contents where
  entries : List Entry
  warnings : List String
deriving DecidableEq

namespace Contents

/-- The package with nothing in it. -/
def empty : Contents := ⟨[], []⟩

/-- The contents with a warning more. -/
def warn (c : Contents) (warning : String) : Contents :=
  { c with warnings := c.warnings ++ [warning] }

/-- Whether there is an entry of a name, but for the case of ASCII letters. -/
def hasName (c : Contents) (name : String) : Bool := c.entries.any (sameName ·.name name)

/-- The contents with an entry more, unless one of its name is there. -/
def add (c : Contents) (entry : Entry) : Contents :=
  if c.hasName entry.name then c.warn ("duplicate archive entry " ++ entry.name ++ " skipped")
  else { c with entries := c.entries ++ [entry] }

/-- The contents after a candidate. -/
def addCandidate (files : Store) (c : Contents) (candidate : Candidate) :
    Except Error Contents :=
  match candidate.warning, files.contains candidate.path with
  | some warning, false => .ok (c.warn warning)
  | _, _ =>
    match candidate.name with
    | none => .error (.missingInput candidate.path)
    | some name =>
      match files.read candidate.path with
      | .error failure => .error (.files failure)
      | .ok content => .ok (c.add ⟨name, content.toBytes⟩)

/-- The contents with the manifest. A packer without an extension of its own gets a warning. -/
def addManifest (c : Contents) (manifest : Manifest) (file : String) : Contents :=
  let c :=
    if manifest.kind = .packer ∧ manifest.defaultExtension = none then
      c.warn ("no default extension given, using `" ++ manifest.archiveExtension ++ "`")
    else c
  c.add ⟨Manifest.fileName, Text.encode (manifest.text file).toList⟩

end Contents

/-- The contents of a package whose manifest names `file` as the module to install. -/
def Inputs.contents (inputs : Inputs) (sdk file : String) (files : Store) :
    Except Error Contents := do
  let packed ← (inputs.candidates sdk).foldlM (Contents.addCandidate files) .empty
  return packed.addManifest inputs.manifest file

end PluginBuild.Package
