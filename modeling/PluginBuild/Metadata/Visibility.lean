/-!
# Visibility of methods

The seven degrees to which a method can be seen, with the words a listing uses for them and the
words a metadata dump uses.
-/

namespace PluginBuild.Metadata

/-- Who may see a method. -/
inductive Visibility
  | «private»
  | «public»
  | family
  | assembly
  | familyOrAssembly
  | familyAndAssembly
  | compilerControlled
deriving DecidableEq

/-- The visibility that a word of a declaration stands for. -/
def Visibility.ofKeyword? : String → Option Visibility
  | "public" => some .public
  | "private" => some .private
  | "family" => some .family
  | "assembly" => some .assembly
  | "famorassem" => some .familyOrAssembly
  | "famandassem" => some .familyAndAssembly
  | "privatescope" => some .compilerControlled
  | "compilercontrolled" => some .compilerControlled
  | _ => none

/-- The name of a visibility in a metadata dump. -/
def Visibility.name : Visibility → String
  | .private => "private"
  | .public => "public"
  | .family => "family"
  | .assembly => "assembly"
  | .familyOrAssembly => "familyorassembly"
  | .familyAndAssembly => "familyandassembly"
  | .compilerControlled => "compilercontrolled"

/-- All visibilities. -/
def Visibility.all : List Visibility :=
  [.private, .public, .family, .assembly, .familyOrAssembly, .familyAndAssembly,
    .compilerControlled]

end PluginBuild.Metadata
