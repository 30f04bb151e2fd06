import PluginBuild.Build.Run
import PluginBuild.Plugin.Analysis.Written
/-!
# Writing what a build leads to

The JSON value of each part of the outcome of a build, with its fields in order.
-/

namespace PluginBuild

open Metadata (stringsJson)

/-- A path. -/
def Files.Path.toJson (p : Files.Path) : Json := .string p.text

/-- An export that has been removed. -/
def Listing.RemovedExport.toJson (e : Listing.RemovedExport) : Json :=
  .object [("name", .string e.name), ("method", .string e.method), ("line", .integer e.line)]

/-- What has been removed. -/
def Listing.RemovalReport.toJson (r : Listing.RemovalReport) : Json :=
  .object [("removed", .array (r.removed.map Listing.RemovedExport.toJson)),
    ("missing", stringsJson r.missing)]

/-- An architecture. -/
def Architecture.toJson : Architecture → Json
  | .x86 => .string "X86"
  | .x64 => .string "X64"

/-- What has been done to a native module. -/
def TrimmedModule.toJson (m : TrimmedModule) : Json :=
  .object [("architecture", m.architecture.toJson), ("removal", m.removal.toJson)]

/-- An entry of a package. -/
def Package.ReportEntry.toJson (e : Package.ReportEntry) : Json :=
  .object [("name", .string e.name), ("size", .integer e.size), ("md5", .string e.md5)]

/-- The fields of a report on a package. -/
def Package.Report.fields (r : Package.Report) : List (String × Json) :=
  [("archive", r.archive.toJson),
    ("entries", .array (r.entries.map Package.ReportEntry.toJson)),
    ("warnings", stringsJson r.warnings)]

/-- A report on a package. -/
def Package.Report.toJson (r : Package.Report) : Json := .object r.fields

/-- The outcome of a build. -/
def BuildOutcome.toJson (o : BuildOutcome) : Json :=
  .object [("archive", o.archive.toJson),
    ("generated_files", .array (o.generated.map Files.Path.toJson)),
    ("analysis", o.analysis.toJson), ("wrappers", .array (o.modules.map TrimmedModule.toJson)),
    ("package", o.package.toJson)]

end PluginBuild
