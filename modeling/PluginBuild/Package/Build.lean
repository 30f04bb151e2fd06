import PluginBuild.Files.Action
import PluginBuild.Package.Contents
/-!
# Building and publishing packages

A package is an archive with the contents of its inputs. Publishing puts a file in its place in one
step, so the place holds either what it held before or all of the file.
-/

namespace PluginBuild.Package

open Files

/-- What a report says of an entry. -/
structure ReportEntry where
  name : String
  /-- The number of bytes. -/
  size : Nat
  md5 : String
deriving DecidableEq

/-- What a report says of an entry. -/
def ReportEntry.ofEntry (entry : Entry) : ReportEntry :=
  ⟨entry.name, entry.bytes.length, Digest.md5 entry.bytes⟩

/-- What has been packed. -/
structure Report where
  archive : Path
  entries : List ReportEntry
  warnings : List String
deriving DecidableEq

namespace Report

/-- The report on the contents of an archive. -/
def ofContents (archive : Path) (contents : Contents) : Report :=
  ⟨archive, contents.entries.map ReportEntry.ofEntry, contents.warnings⟩

/-- The entry of a name. -/
def find? (report : Report) (name : String) : Option ReportEntry :=
  report.entries.find? (·.name = name)

end Report

/-- What stands for the path of the first native module where there is none. -/
def noModulePath : Path := ⟨"<primary wrapper>"⟩

/-- The first native module, which has to be there, as has the managed assembly. -/
def Inputs.primary (inputs : Inputs) (files : Store) : Except Error NativeModule :=
  match inputs.modules with
  | [] => .error (.missingInput noModulePath)
  | primary :: _ =>
    if !files.contains primary.path then .error (.missingInput primary.path)
    else if !files.contains inputs.managed then .error (.missingInput inputs.managed)
    else .ok primary

/-- Makes the directories to which the parent of a path leads, if there is one. -/
def makeParent (p : Path) : FileAction Unit :=
  match p.parent? with
  | some parent => FileAction.makeDirectories parent
  | none => return

/-- Writes the archive of a package. Inputs are read once the archive is there without entries; an
archive that fails stays unfinished. -/
def build (sdk : String) (inputs : Inputs) (archive : Path) : FileAction Report := do
  let primary ← inputs.primary (← get)
  makeParent archive
  FileAction.change (·.write archive (.archive ⟨[], false⟩))
  let contents ← inputs.contents sdk (inputs.moduleName primary.architecture) (← get)
  FileAction.change (·.write archive (.archive ⟨contents.entries, true⟩))
  return .ofContents archive contents

/-- The name of the archive of a plugin for a runtime. -/
def archiveName (name : String) (runtime : Option String) : String :=
  match runtime with
  | none | some "" => name ++ ".zip"
  | some runtime => name ++ "-" ++ runtime ++ ".zip"

/-- The directory of a path, which is the working directory for a name alone. -/
def directoryOf (p : Path) : Path :=
  match p.parent? with
  | none | some ⟨""⟩ => ⟨"."⟩
  | some parent => parent

/-- A path of the file that is put in a directory before it takes the place of another. -/
def stagedIn (files : Store) (directory : Path) : Path :=
  (files.workingPath.join directory).join ⟨".plugforge-000000.partial"⟩

/-- Puts what `source` holds in the place of `destination`, in a directory that is made for it. -/
def publish (source destination : Path) : FileAction Unit := do
  let directory := directoryOf destination
  FileAction.makeDirectories directory
  let _ ← FileAction.query fun files => files.locate (stagedIn files directory)
  let content ← FileAction.query (·.read source)
  FileAction.change (·.replace destination content)

end PluginBuild.Package
