import PluginBuild.Build.Run
import PluginBuild.Text.Blank
/-!
# Reports

What the program prints of analyses, packages, removals and contracts.
-/

namespace PluginBuild

/-- Lines that each end with a line break. -/
def CommandLine.unlines (lines : List String) : String := String.join (lines.map (· ++ "\n"))

/-- The heading of a decision. -/
def Decision.heading (d : Decision) : String :=
  d.kind.name ++ " plugin" ++ (if d.merged then " (with content)" else "") ++ ":"

/-- The lines on a decision. -/
def Decision.lines (d : Decision) : List String :=
  d.heading :: d.verdicts.map fun (name, verdict) =>
    "  " ++ Text.atLeft 36 name ++ " " ++ verdict.text

/-- The line on a member that a plugin implements. -/
def ImplementedMember.line (kind : PluginKind) (m : ImplementedMember) : String :=
  "implemented (" ++ kind.name ++ "): " ++ m.signature ++ " in " ++ m.declaringType

/-- The lines on an analysis. -/
def Analysis.lines (a : Analysis) : List String :=
  a.declarations.declarations.map ("declared: " ++ ·.text) ++
    a.declarations.warnings.map ("warning: " ++ ·) ++
    PluginKind.all.flatMap (fun kind =>
      ((a.implementations kind).getD []).map (ImplementedMember.line kind)) ++
    a.decision.lines

/-- The line on an entry of a package. -/
def Package.ReportEntry.line (e : Package.ReportEntry) : String :=
  "  " ++ Text.atLeft 32 e.name ++ " " ++ Text.atRight 10 (toString e.size) ++ "  " ++ e.md5

/-- The line on an export that has been removed. -/
def Listing.RemovedExport.reportLine (e : Listing.RemovedExport) : String :=
  "removed " ++ e.name ++ " from " ++ e.method ++ " (line " ++ toString e.line ++ ")"

/-- The line on a contract of a kind. -/
def Contract.line (kind : PluginKind) (c : Contract) : String :=
  "  " ++ Text.atLeft 40 (kind.signature c.member) ++ " " ++ Text.atLeft 10 c.obligation.name ++
    " " ++ ", ".intercalate c.exports

/-- The lines on the contracts of a kind. -/
def PluginKind.lines (kind : PluginKind) : List String :=
  (kind.name ++ " (" ++ toString kind.contracts.length ++ " members)") ::
    kind.contracts.map (Contract.line kind)

/-- The line on the files that a task has written. -/
def CommandLine.generatedLine (paths : List Files.Path) : String :=
  "generated: " ++ ";".intercalate (paths.map (·.text))

end PluginBuild
