import PluginBuild.Metadata.Dump.Written
import PluginBuild.Plugin.Analysis
/-!
# Writing analyses

The JSON value of each part of an analysis, with its fields in order.
-/

namespace PluginBuild

open Metadata (stringsJson)

/-- A declaration. -/
def Declaration.toJson (d : Declaration) : Json :=
  .object [("kind", .string d.kind.name), ("class_name", .string d.className)]

/-- The declarations of a module. -/
def Declarations.toJson (d : Declarations) : Json :=
  .object [("declarations", .array (d.declarations.map Declaration.toJson)),
    ("assembly", d.assembly.toJson), ("warnings", stringsJson d.warnings)]

/-- An implemented member. -/
def ImplementedMember.toJson (m : ImplementedMember) : Json :=
  .object [("signature", .string m.signature), ("declaring_type", .string m.declaringType)]

/-- The implemented members of each kind declared. -/
def Implementations.toJson (implementations : Implementations) : Json :=
  .object (PluginKind.all.filterMap fun kind => (implementations kind).map fun members =>
    (kind.name, .array (members.map ImplementedMember.toJson)))

/-- The name of a reason. -/
def Reason.name : Reason → String
  | .mandatory => "Mandatory"
  | .base => "BaseImplemented"
  | .implemented => "ImplementedByUser"

/-- A verdict. -/
def Verdict.toJson : Verdict → Json
  | .retain reason => .object [("Retain", .string reason.name)]
  | .strip => .string "Strip"

/-- A decision. -/
def Decision.toJson (d : Decision) : Json :=
  .object [("kind", .string d.kind.name), ("merged", .bool d.merged),
    ("verdicts", .object (d.verdicts.map fun entry => (entry.1, entry.2.toJson)))]

/-- An analysis. -/
def Analysis.toJson (a : Analysis) : Json :=
  .object [("scan", a.declarations.toJson), ("implemented", a.implementations.toJson),
    ("decision", a.decision.toJson)]

end PluginBuild
