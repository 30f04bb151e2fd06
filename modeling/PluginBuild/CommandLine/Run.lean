import PluginBuild.Build.Run.Written
import PluginBuild.CommandLine.Complaint
import PluginBuild.CommandLine.Help
import PluginBuild.CommandLine.Report
import PluginBuild.Json.Printer
import PluginBuild.Settings.Load
import PluginBuild.Tools.External
/-!
# Running the program

What the program prints and which files it changes. Nothing is printed of a task before all of it
is done.
-/

namespace PluginBuild.CommandLine

open Files (Path Store)

/-- What the program finds around it. -/
structure Environment where
  /-- The settings document that the environment names. -/
  settings : Option Path
  /-- The directories that are searched for programs. -/
  searchPath : String
  programs : Programs
  /-- The directory of a build. -/
  work : Path

/-- What the program leaves besides files. -/
structure Outcome where
  code : Nat
  stdout : String
  stderr : String
deriving DecidableEq

/-- A part of a task, which may change files. -/
abbrev TaskAction (α : Type) := ExceptT Complaint (StateM Store) α

namespace TaskAction

/-- What a result is, or else the complaint about it. -/
def orComplain {ε α : Type} (complain : ε → Complaint) : Except ε α → TaskAction α
  | .ok a => return a
  | .error e => throw (complain e)

/-- The text of a file. -/
def readText (path : Path) : TaskAction (List Char) := do
  orComplain (.aboutFile ("Failed to read " ++ path.quoted)) ((← get).readText path)

/-- The module that the listing in a file declares. -/
def readListing (path : Path) : TaskAction Metadata.Module := do
  orComplain .ofError (Metadata.Module.ofText (← readText path))

/-- The metadata that a task is about. -/
def readMetadata : MetadataSource → TaskAction Metadata.Dump
  | .dump path => do orComplain .ofError (Metadata.Dump.load (← get) path)
  | .listings module references => do
    let references ← references.mapM readListing
    return ⟨← readListing module, references⟩
  | .assembly => throw ⟨"analysis needs --metadata-json or --il", []⟩

/-- The analysis of the module that a task is about. -/
def analyze (source : MetadataSource) : TaskAction Analysis := do
  let dump ← readMetadata source
  orComplain (.about ("Failed to analyze " ++ dump.module.assembly.name)) (Analysis.ofDump dump)

/-- Trims a listing and prints what was removed. -/
def trim (source : MetadataSource) (input output : Path) : TaskAction String := do
  let analysis ← analyze source
  let listing ← readText input
  let (trimmed, report) ←
    orComplain (.about ("Failed to parse " ++ input.quoted)) (analysis.decision.trim listing)
  let files ← orComplain (.aboutFile ("Failed to write " ++ output.quoted))
    ((← get).write output (.ofText trimmed))
  set files
  return unlines (report.removed.map (·.reportLine) ++ [generatedLine [output]])

/-- Builds a plugin and prints what has been packed. -/
def build (environment : Environment) (explicit : Option Path) (request : BuildRequest)
    (json : Bool) : TaskAction String := do
  let settings ← orComplain (.about "Failed to load configuration")
    (Settings.load (← get) explicit environment.settings)
  let tools : ExternalTools := ⟨settings, environment.searchPath, environment.programs⟩
  let (result, after) := request.build settings tools.toolchain environment.work
    ⟨← get, false, []⟩
  set after.files
  let outcome ←
    orComplain (.about ("Failed to build plugin from " ++ request.assembly.quoted)) result
  let report :=
    if json then [Json.pretty outcome.toJson]
    else outcome.analysis.lines ++ outcome.package.entries.map (·.line)
  return unlines (report ++ [generatedLine outcome.generated])

/-- Does a task and prints what comes of it. -/
def perform (environment : Environment) (explicit : Option Path) : Task → TaskAction String
  | .build request json => build environment explicit request json
  | .analyze source json => do
    let analysis ← analyze source
    return unlines (if json then [Json.pretty analysis.toJson] else analysis.lines)
  | .trim source input output => trim source input output
  | .catalog kind => return unlines ((kind.elim PluginKind.all ([·])).flatMap PluginKind.lines)

end TaskAction

/-- The outcome of a task. -/
def Outcome.ofResult : Except Complaint String → Outcome
  | .ok printed => ⟨0, printed, ""⟩
  | .error complaint => ⟨1, "", complaint.text⟩

/-- What is said to arguments that ask for no task. -/
def refusal : String :=
  "error: the arguments cannot be understood\n\nFor more information, try '--help'.\n"

/-- Runs the program with arguments. -/
def run (environment : Environment) (arguments : List String) (files : Store) : Outcome × Store :=
  match Invocation.ofArguments arguments with
  | .refused => (⟨2, "", refusal⟩, files)
  | .help verb => (⟨0, helpText verb, ""⟩, files)
  | .version verb => (⟨0, versionText verb, ""⟩, files)
  | .task task explicit =>
    let (result, after) := ExceptT.run (TaskAction.perform environment explicit task) files
    (.ofResult result, after)

end PluginBuild.CommandLine
