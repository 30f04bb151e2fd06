import PluginBuild.CommandLine.Paths
import PluginBuild.CommandLine.Run
import PluginBuild.Shell.Programs
/-!
# The program

Takes what the arguments name from the disk into a store, runs the command line there, and puts back
what has changed.
-/

namespace PluginBuild.Program

open Files (Content Location Node Path Store)

/-- The text of a location. -/
def textOf (location : Location) : String := "/" ++ "/".intercalate location

/-- The locations on the way to one, and the one itself. -/
def wayTo : Location → List Location
  | [] => []
  | name :: rest => [name] :: (wayTo rest).map (name :: ·)

/-- What is at a location of the disk. A file that starts as a script does can be run. -/
def nodeOnDisk (location : Location) : IO (Option Node) := do
  match ← (IO.FS.readBinFile (textOf location)).toBaseIO with
  | .ok bytes =>
    let bytes := bytes.toList
    return some (.file (.bytes bytes) ("#!".toUTF8.toList.isPrefixOf bytes))
  | .error (.inappropriateType ..) => return some .directory
  | .error _ => return none

/-- The names on the way that a path goes, with the steps up taken. -/
def locationOf (files : Store) (path : Path) : Location :=
  path.segments.foldl (fun location segment =>
    if segment = "" || segment = "." then location
    else if segment = ".." then location.dropLast
    else location ++ [segment]) (files.start path)

/-- The store with what paths lead to on the disk. -/
def fetch (files : Store) (paths : List Path) : IO Store := do
  let mut files := files
  for path in paths do
    for location in wayTo (locationOf files path) do
      if (files.node? location).isNone then
        match ← nodeOnDisk location with
        | some node => files := files.put location node
        | none => pure ()
  return files

/-- Puts on the disk what differs from before. -/
def putBack (before after : Store) : IO Unit := do
  for (location, node) in after.nodes.reverse do
    if before.node? location ≠ some node then
      match node with
      | .directory => IO.FS.createDirAll (textOf location)
      | .file content _ =>
        IO.FS.writeBinFile (textOf location) (ByteArray.mk content.toBytes.toArray)

/-- The directory in which a build makes its files. It is in the store only. -/
def workDirectory : Path := ⟨"/tmp/plugforge-build"⟩

end PluginBuild.Program

open PluginBuild PluginBuild.Program in
/-- Runs the program with its arguments. -/
def main (arguments : List String) : IO UInt32 := do
  let directory : Files.Path := ⟨toString (← IO.currentDir)⟩
  let settings := (← IO.getEnv "PLUGFORGE_CONFIG").map Files.Path.mk
  let searchPath := (← IO.getEnv "PATH").getD ""
  let environment : CommandLine.Environment :=
    { settings, searchPath, programs := Shell.programs, work := workDirectory }
  let invocation := CommandLine.Invocation.ofArguments arguments
  let workingDirectory := directory.segments.filter (· ≠ "")
  let files ← fetch ⟨workingDirectory, []⟩ (⟨"."⟩ :: invocation.settingsPaths settings)
  let explicit := match invocation with
    | .task _ explicit => explicit
    | _ => none
  let found := (Settings.load files explicit settings).toOption.getD SettingsLayer.empty.settings
  let before ← fetch files (invocation.paths found searchPath)
  let (outcome, after) := CommandLine.run environment arguments before
  putBack before after
  IO.print outcome.stdout
  IO.eprint outcome.stderr
  return UInt32.ofNat outcome.code
