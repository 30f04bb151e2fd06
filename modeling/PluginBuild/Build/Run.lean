import PluginBuild.Build.World
import PluginBuild.Metadata.Load
import PluginBuild.Package.Build
import PluginBuild.Plugin.Analysis
import PluginBuild.Settings.Layer
/-!
# Building a plugin

From a managed assembly and native modules that export everything to a package of native modules
that export what the plugin implements. All files but the package are made in a directory of the
build. Every native module is read before one is changed, and all are made before they are packed.
-/

namespace PluginBuild

open Files (Path)
open Metadata (Module)

/-- Where the metadata of the managed assembly comes from. -/
inductive MetadataSource
  /-- A dump. -/
  | dump (path : Path)
  /-- The listings of the assembly and of those that it refers to. -/
  | listings (module : Path) (references : List Path)
  /-- The assembly itself and the one with the base classes, which are disassembled. -/
  | assembly
deriving DecidableEq

/-- A native module that exports everything, as a module or as its listing. -/
structure Template where
  architecture : Architecture
  path : Path
deriving DecidableEq

/-- What is to be built. -/
structure BuildRequest where
  assembly : Path
  metadata : MetadataSource
  /-- The native modules. The first one has to be there. -/
  templates : List Template
  /-- The files that the assembly refers to. -/
  references : List Path
  /-- The directory for the package. -/
  output : Path
  /-- The runtime that the package is for. -/
  runtime : Option String
  /-- The name of the plugin, which is that of the assembly unless it is given. -/
  name : Option String
  defaultExtension : Option String
deriving DecidableEq

/-- What has been done to a native module. -/
structure TrimmedModule where
  architecture : Architecture
  removal : Listing.RemovalReport

/-- What a build leads to. -/
structure BuildOutcome where
  archive : Path
  /-- The files written outside of the directory of the build. -/
  generated : List Path
  analysis : Analysis
  modules : List TrimmedModule
  package : Package.Report

namespace Template

/-- Whether a template is a listing. -/
def isListing (t : Template) : Bool := t.path.extension?.any (Package.sameName · "il")

/-- The name of the files that are made of a template, without extension. -/
def stem (t : Template) : String := "wrapper-" ++ t.architecture.name

/-- The call that gives the listing of a template that is none itself. -/
def disassembleCall (work : Path) (t : Template) : ToolCall :=
  .disassemble t.path (work.join ⟨t.stem ++ ".il"⟩)

/-- The file of the trimmed listing. -/
def trimmedPath (work : Path) (t : Template) : Path := work.join ⟨t.stem ++ ".trimmed.il"⟩

end Template

/-- A native module with its listing. -/
structure ReadModule where
  template : Template
  outline : Listing.Outline

/-- A native module whose trimmed listing has been written. -/
structure WrittenModule where
  template : Template
  source : Path
  removal : Listing.RemovalReport

/-- What a build has read before it changes native modules. -/
structure Preparation where
  /-- The name of the plugin. -/
  name : String
  /-- The module of the managed assembly. -/
  module : Module
  analysis : Analysis
  /-- The native modules, in the order of their templates. -/
  kept : List ReadModule

/-- The file of a native module that is made. -/
def Preparation.outputPath (p : Preparation) (work : Path) (architecture : Architecture) : Path :=
  work.join ⟨p.name ++ "." ++ p.analysis.decision.kind.extension architecture⟩

namespace BuildRequest

open BuildAction

/-- The assembly with the base classes: a reference of its name, or else the file of its name beside
the managed assembly. -/
def sdkReference? (request : BuildRequest) (sdk : String) (files : Files.Store) : Option Path :=
  match request.references.find? fun path => path.stem?.any (Package.sameName · sdk) with
  | some reference => some reference
  | none =>
    let sibling := request.assembly.withName (sdk ++ ".dll")
    if files.contains sibling then some sibling else none

/-- The text of a file, which has to be there. -/
def readInput (path : Path) : BuildAction (List Char) := do
  if !(← ask (·.contains path)) then throw (.missingInput path)
  onFiles (FileAction.query (·.readText path))

/-- The module that the listing in a file declares. -/
def readListing (path : Path) : BuildAction Module := do Module.ofText (← readInput path)

/-- The module that a disassembled assembly declares. -/
def readAssembly (tools : Toolchain) (assembly output : Path) : BuildAction Module := do
  Module.ofText (← call tools (.disassemble assembly output))

/-- The metadata of the managed assembly and of those that it refers to. -/
def readMetadata (request : BuildRequest) (settings : Settings) (tools : Toolchain) (work : Path) :
    BuildAction Metadata.Dump := do
  match request.metadata with
  | .dump path => ← ask (Metadata.Dump.load · path)
  | .listings module references =>
    let module ← readListing module
    return ⟨module, ← references.mapM readListing⟩
  | .assembly =>
    let module ← readAssembly tools request.assembly (work.join ⟨"managed.il"⟩)
    match ← ask (request.sdkReference? settings.sdkAssembly) with
    | none => return ⟨module, []⟩
    | some sdk => return ⟨module, [← readAssembly tools sdk (work.join ⟨"sdk.il"⟩)]⟩

/-- The name of the plugin. -/
def nameFor (request : BuildRequest) (module : Module) : String :=
  match request.name with
  | some name => if (Text.trim name.toList).isEmpty then module.assembly.name else name
  | none => module.assembly.name

/-- The outline of a listing. -/
def readOutline (listing : List Char) : BuildAction Listing.Outline :=
  match Listing.Outline.ofText listing with
  | .ok outline => return outline
  | .error malformed => throw (.ofMalformed malformed)

/-- A native module with its listing. All but the first are passed over where they are missing,
unless they are listings. -/
def readTemplate (tools : Toolchain) (work : Path) (entry : Template × Nat) :
    BuildAction (Option ReadModule) := do
  let (template, index) := entry
  if template.isListing then
    return some ⟨template, ← readOutline (← readInput template.path)⟩
  else if 0 < index ∧ !(← ask (·.contains template.path)) then return none
  else return some ⟨template, ← readOutline (← call tools (template.disassembleCall work))⟩

/-- Reads the managed assembly and analyses it. -/
def analyse (request : BuildRequest) (settings : Settings) (tools : Toolchain) (work : Path) :
    BuildAction (Module × Analysis) := do
  if !(← ask (·.contains request.assembly)) then throw (.missingInput request.assembly)
  if request.templates.isEmpty then throw (.missingInput Package.noModulePath)
  onFiles (FileAction.makeDirectories work)
  let dump ← request.readMetadata settings tools work
  checkpoint
  let analysis ← Analysis.ofDump dump
  checkpoint
  return (dump.module, analysis)

/-- Reads the managed assembly, which is analysed, and the native modules. -/
def prepare (request : BuildRequest) (settings : Settings) (tools : Toolchain) (work : Path) :
    BuildAction Preparation := do
  let (module, analysis) ← request.analyse settings tools work
  let kept ← request.templates.zipIdx.filterMapM (readTemplate tools work)
  checkpoint
  return ⟨request.nameFor module, module, analysis, kept⟩

/-- Writes the trimmed listing of a native module. -/
def writeTrimmed (decision : Decision) (work : Path) (module : ReadModule) :
    BuildAction WrittenModule := do
  let (outline, removal) := decision.trimOutline module.outline
  let source := module.template.trimmedPath work
  onFiles (FileAction.change (·.write source (.ofText outline.text)))
  return ⟨module.template, source, removal⟩

/-- Writes the trimmed listings of the native modules. -/
def writeKept (work : Path) (p : Preparation) : BuildAction (List WrittenModule) := do
  let written ← p.kept.mapM (writeTrimmed p.analysis.decision work)
  checkpoint
  return written

/-- The call that makes a native module of its trimmed listing, with its resources if there are
any. -/
def reassembleCall (work : Path) (p : Preparation) (module : WrittenModule)
    (files : Files.Store) : ToolCall :=
  let resource := work.join ⟨module.template.stem ++ ".res"⟩
  .reassemble module.source (p.outputPath work module.template.architecture)
    (if files.contains resource then some resource else none) module.template.architecture

/-- Makes a native module of its trimmed listing. -/
def reassemble (tools : Toolchain) (work : Path) (p : Preparation) (module : WrittenModule) :
    BuildAction Package.NativeModule := do
  let _ ← call tools (← ask (reassembleCall work p module))
  return ⟨module.template.architecture, p.outputPath work module.template.architecture⟩

/-- Packs native modules and publishes the package. -/
def pack (request : BuildRequest) (settings : Settings) (work : Path) (p : Preparation)
    (written : List WrittenModule) (modules : List Package.NativeModule) :
    BuildAction BuildOutcome := do
  let inputs : Package.Inputs :=
    { modules
      managed := request.assembly
      references := request.references
      manifest := .ofModule p.analysis.decision.kind p.name p.module request.defaultExtension }
  let archiveName : Path := ⟨Package.archiveName p.name request.runtime⟩
  let staged := work.join archiveName
  let report ← onFiles (Package.build settings.sdkAssembly inputs staged)
  checkpoint
  let archive := request.output.join archiveName
  onFiles (Package.publish staged archive)
  return { archive
           generated := [archive]
           analysis := p.analysis
           modules := written.map fun module => ⟨module.template.architecture, module.removal⟩
           package := { report with archive } }

/-- Builds a plugin with the files of the build in the directory `work`. -/
def run (request : BuildRequest) (settings : Settings) (tools : Toolchain) (work : Path) :
    BuildAction BuildOutcome := do
  let p ← request.prepare settings tools work
  let written ← writeKept work p
  let modules ← written.mapM (reassemble tools work p)
  checkpoint
  request.pack settings work p written modules

/-- Builds a plugin and clears away the directory of the build. -/
def build (request : BuildRequest) (settings : Settings) (tools : Toolchain) (work : Path)
    (w : World) : Except Error BuildOutcome × World :=
  let (result, after) := (request.run settings tools work).run w
  match after.files.locate work with
  | .ok location => (result, { after with files := after.files.removeTree location })
  | .error _ => (result, after)

end BuildRequest

end PluginBuild
