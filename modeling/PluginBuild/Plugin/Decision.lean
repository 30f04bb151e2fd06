import PluginBuild.Listing.Outline.OfText
import PluginBuild.Listing.Outline.Removal
import PluginBuild.Plugin.Implemented
/-!
# Export decisions

Which exports a native module keeps. Those of mandatory members and of members of the base class
stay in any case, the others where the plugin implements the member. A file system module may serve
content as well and then keeps aliases of content exports by the same rule.
-/

namespace PluginBuild

/-- Why an export is kept. -/
inductive Reason
  | mandatory
  | base
  | implemented
deriving DecidableEq

/-- What becomes of an export. -/
inductive Verdict
  | retain (reason : Reason)
  | strip
deriving DecidableEq

namespace Verdict

/-- The wording of a verdict. -/
def text : Verdict → String
  | retain .mandatory => "retain (mandatory)"
  | retain .base => "retain (base)"
  | retain .implemented => "retain (implemented)"
  | strip => "strip"

/-- Whether an export is kept. -/
def isRetained : Verdict → Bool
  | retain _ => true
  | strip => false

/-- The verdict for a reason, if there is one. -/
def ofReason : Option Reason → Verdict
  | some reason => retain reason
  | none => strip

end Verdict

/-- Why the exports of a member are kept. -/
def Contract.reason? (kind : PluginKind) (members : List ImplementedMember) (contract : Contract) :
    Option Reason :=
  match contract.obligation with
  | .mandatory => some .mandatory
  | .base => some .base
  | .optional =>
    if members.any (·.signature = kind.signature contract.member) then some .implemented else none

/-- Why the export `name` of a member of a kind is kept, where `names` are the exports of a
member. -/
def PluginKind.reason? (kind : PluginKind) (names : Contract → List String)
    (members : List ImplementedMember) (name : String) : Option Reason :=
  (kind.contracts.filter (name ∈ names ·)).findSome? (Contract.reason? kind members)

/-- The implemented members of each kind that a module declares. -/
abbrev Implementations := PluginKind → Option (List ImplementedMember)

/-- The kinds that a module declares, in order. -/
def Implementations.kinds (implementations : Implementations) : List PluginKind :=
  PluginKind.all.filter fun kind => (implementations kind).isSome

/-- The verdict for every export that a native module can have. -/
structure Decision where
  kind : PluginKind
  /-- Whether a file system module serves content as well. -/
  merged : Bool
  /-- The exports in order, with their verdicts. -/
  verdicts : List (String × Verdict)
deriving DecidableEq

namespace Decision

/-- The decision for a module of one kind. -/
def ofKind (kind : PluginKind) (members : List ImplementedMember) : Decision :=
  ⟨kind, false, kind.exportNames.map fun name =>
    (name, .ofReason (kind.reason? Contract.exports members name))⟩

/-- The decision for a file system module that serves content as well. -/
def ofMerged (fileSystem content : List ImplementedMember) : Decision :=
  ⟨.fileSystem, true, PluginKind.fileSystem.exportNames.map fun name =>
    (name, .ofReason ((PluginKind.content.reason? Contract.aliases content name).or
      (PluginKind.fileSystem.reason? Contract.exports fileSystem name)))⟩

/-- The decision for a module. Of two kinds only file systems and content go together. -/
def ofImplementations (module : String) (implementations : Implementations) :
    Except Error Decision :=
  match implementations.kinds with
  | [] => .error (.noPluginFound module [])
  | [kind] => .ok (ofKind kind ((implementations kind).getD []))
  | [.fileSystem, .content] =>
    .ok (ofMerged ((implementations .fileSystem).getD []) ((implementations .content).getD []))
  | kinds => .error (.conflictingKinds kinds)

/-- The verdict for an export, if the module can have it. -/
def verdict? (d : Decision) (name : String) : Option Verdict := d.verdicts.lookup name

/-- The exports that are kept, in order. -/
def retained (d : Decision) : List String := (d.verdicts.filter (·.2.isRetained)).map (·.1)

/-- The exports that are removed, in order. -/
def stripped (d : Decision) : List String := (d.verdicts.filter (!·.2.isRetained)).map (·.1)

/-- An outline without the exports to be removed, and what was removed. -/
def trimOutline (d : Decision) (outline : Listing.Outline) :
    Listing.Outline × Listing.RemovalReport :=
  (outline.removeExports d.stripped, outline.removalReport d.stripped)

/-- The listing of a native module without the exports to be removed, and what was removed. -/
def trim (d : Decision) (listing : List Char) :
    Except Error (List Char × Listing.RemovalReport) :=
  match Listing.Outline.ofText listing with
  | .error malformed => .error (.ofMalformed malformed)
  | .ok outline => .ok ((d.trimOutline outline).1.text, (d.trimOutline outline).2)

end Decision

end PluginBuild
