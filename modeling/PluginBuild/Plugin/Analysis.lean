import PluginBuild.Metadata.Dump
import PluginBuild.Plugin.Decision
/-!
# Analysis of a module

From the metadata of a module and its references to what it declares, what it implements and which
exports its native module keeps.
-/

namespace PluginBuild

/-- What the analysis of a module finds. -/
structure Analysis where
  declarations : Declarations
  implementations : Implementations
  decision : Decision

namespace Analysis

/-- The members that the declared classes implement. -/
def implementationsOf (u : Metadata.Universe) (declarations : Declarations) : Implementations :=
  fun kind => (declarations.find? kind).map (ImplementedMember.ofDeclaration u)

/-- The analysis of a module with its references. -/
def ofModules (module : Metadata.Module) (references : List Metadata.Module) :
    Except Error Analysis := do
  let u := Metadata.Universe.ofModules module references
  let declarations ← Declarations.ofModule module u
  let implementations := implementationsOf u declarations
  let decision ← Decision.ofImplementations module.assembly.name implementations
  return ⟨declarations, implementations, decision⟩

/-- The analysis of the module in a dump. -/
def ofDump (dump : Metadata.Dump) : Except Error Analysis := ofModules dump.module dump.references

end Analysis

end PluginBuild
