import PluginBuild.Metadata.Universe
import PluginBuild.Ordered
import PluginBuild.Plugin.Contract
import PluginBuild.Plugin.Declaration
/-!
# Implemented members

Which members of a kind's interface a plugin implements. A method implements a member if it, or a
method that it overrides, is the one to which a type maps the member. Where the base class of the
kind is not in sight, an override of it counts by its name.
-/

namespace PluginBuild

open Metadata

/-- A method of a type, by its place among the type's methods. -/
structure DeclaredMethod where
  owner : TypeDef
  index : Fin owner.methods.length
deriving DecidableEq

namespace DeclaredMethod

/-- The method at its place. -/
def method (m : DeclaredMethod) : Method := m.owner.methods[m.index]

/-- What tells methods of different types and places apart. -/
def key (m : DeclaredMethod) : String × Nat := (m.owner.fullName, m.index)

/-- The first method of a type that meets a condition. -/
def find? (owner : TypeDef) (condition : Method → Bool) : Option DeclaredMethod :=
  (owner.methods.findFinIdx? condition).map (⟨owner, ·⟩)

/-- The methods of a type. -/
def ofType (owner : TypeDef) : List DeclaredMethod :=
  (List.finRange owner.methods.length).map (⟨owner, ·⟩)

end DeclaredMethod

/-- A virtual method of an instance, which can be overridden. -/
def Metadata.Method.isOverridable (m : Method) : Bool := m.isVirtual && !m.isStatic

/-- A virtual method of an instance that takes the place of the one it has the signature of. -/
def Metadata.Method.isOverride (m : Method) : Bool := m.isOverridable && !m.isNewslot

/-- A method that can stand for a member of an interface without saying so. -/
def Metadata.Method.isPublicVirtual (m : Method) : Bool :=
  m.isOverridable && m.visibility = .public

/-- Whether two references are to the same member; without parameters one is to any overload. -/
def Metadata.MemberRef.isSame (a b : MemberRef) : Bool :=
  a.declaringType = b.declaringType && a.name = b.name &&
    (a.params = none || b.params = none || a.params = b.params)

namespace Overrides

/-- The method of a class that a method states to override. -/
def stated? (u : Universe) (m : DeclaredMethod) : Option DeclaredMethod :=
  m.method.overrides.findSome? fun target =>
    match u.get? target.declaringType with
    | none => none
    | some owner =>
      if owner.kind = .interface then none else DeclaredMethod.find? owner target.fits

/-- The method of the nearest base type whose signature a method has. -/
def inherited? (u : Universe) (m : DeclaredMethod) : Option DeclaredMethod :=
  if m.method.isOverride then
    ((u.ancestry m.owner).drop 1).findSome? fun base =>
      DeclaredMethod.find? base fun other => other.isOverridable && other.hasSignatureOf m.method
  else none

/-- The method that a method overrides. -/
def next? (u : Universe) (m : DeclaredMethod) : Option DeclaredMethod :=
  (stated? u m).or (inherited? u m)

/-- The keys of all methods in sight. -/
def keys (u : Universe) : List (String × Nat) :=
  u.types.flatMap fun entry => (DeclaredMethod.ofType entry.type).map DeclaredMethod.key

/-- The keys without one of them. -/
def without (keys : List (String × Nat)) (key : String × Nat) : List (String × Nat) :=
  keys.filter (· ≠ key)

/-- Without a key that is there, fewer keys are. -/
theorem length_without_lt {key : String × Nat} {keys : List (String × Nat)} (h : key ∈ keys) :
    (without keys key).length < keys.length :=
  List.length_filter_lt_length_iff_exists.2 ⟨key, h, by simp⟩

/-- A method and those it overrides, as far as the keys in `unseen` go. -/
def chainIn (u : Universe) (unseen : List (String × Nat)) (m : DeclaredMethod) :
    List DeclaredMethod :=
  match next? u m with
  | none => [m]
  | some next =>
    if _h : next.key ∈ unseen then m :: chainIn u (without unseen next.key) next else [m]
termination_by unseen.length
decreasing_by exact length_without_lt _h

/-- A method and those it overrides, nearest first. -/
def chain (u : Universe) (m : DeclaredMethod) : List DeclaredMethod :=
  chainIn u (without (keys u) m.key) m

end Overrides

namespace Mapping

/-- The method to which a type itself maps a member of an interface: one that states to override
it, or else, if the type lists the interface, a public virtual one with the member's name and
parameters in the type or its nearest base type that has one. -/
def own? (u : Universe) (member : MemberRef) (type : TypeDef) : Option DeclaredMethod :=
  (DeclaredMethod.find? type (·.overrides.any (·.isSame member))).or
    (if u.declaresInterface type member.declaringType then
      (u.ancestry type).findSome? fun candidate =>
        DeclaredMethod.find? candidate fun m => m.isPublicVirtual && member.fits m
    else none)

/-- The method to which a type maps a member: its own mapping, or else that of its nearest base
type that has one. -/
def implementation? (u : Universe) (member : MemberRef) (type : TypeDef) :
    Option DeclaredMethod :=
  (u.ancestry type).findSome? (own? u member)

/-- The members of an interface. Those of the kind's interface are known where it is not in
sight. -/
def members (u : Universe) (kind : PluginKind) (interface : String) : List MemberRef :=
  match u.get? interface with
  | some type => type.methods.map fun m => ⟨interface, m.name, some m.params⟩
  | none =>
    if simpleName interface = kind.interfaceName then
      kind.contracts.map fun contract => ⟨interface, contract.member, none⟩
    else []

/-- The signature of the first member with a contract that the type of a method maps to it. -/
def signature? (u : Universe) (kind : PluginKind) (m : DeclaredMethod) : Option String :=
  (u.allInterfaces m.owner).findSome? fun interface =>
    (members u kind interface).findSome? fun member =>
      let signature := simpleName interface ++ "." ++ member.name
      if (kind.contract? signature).isSome &&
          (implementation? u member m.owner).any (·.key = m.key) then
        some signature
      else none

/-- The signature of the member that an override of the kind's base class has the name of, where
the base class ends the hierarchy of the method's type without being in sight. -/
def signatureByName? (u : Universe) (kind : PluginKind) (m : DeclaredMethod) : Option String := do
  guard (m.method.isOverride && m.method.visibility = .public)
  let root ← (u.ancestry m.owner).getLast?
  let base ← root.baseType
  guard ((u.get? base).isNone && simpleName base = kind.baseClassName)
  let signature := kind.signature m.method.name
  guard (kind.contract? signature).isSome
  return signature

/-- The signature of the member that a method of the user module implements. -/
def resolve? (u : Universe) (kind : PluginKind) (m : DeclaredMethod) : Option String :=
  if u.isUser m.owner.fullName then
    ((Overrides.chain u m).findSome? (signature? u kind)).or (signatureByName? u kind m)
  else none

end Mapping

/-- A member that a plugin implements. -/
structure ImplementedMember where
  signature : String
  /-- The type that declares the method. -/
  declaringType : String
deriving DecidableEq

namespace ImplementedMember

/-- The order of implemented members: by signature, then by type. -/
def before (a b : ImplementedMember) : Bool :=
  a.signature < b.signature || (a.signature = b.signature && a.declaringType < b.declaringType)

/-- The member that a method of the user module implements. -/
def ofMethod? (u : Universe) (kind : PluginKind) (m : DeclaredMethod) : Option ImplementedMember :=
  (Mapping.resolve? u kind m).map (⟨·, m.owner.fullName⟩)

/-- The methods of a class and its base types up to the first that is not the user's, without
those that have no code of an instance. -/
def candidates (u : Universe) (className : String) : List DeclaredMethod :=
  match u.get? className with
  | none => []
  | some type =>
    ((u.ancestry type).takeWhile fun base => u.isUser base.fullName).flatMap fun base =>
      (DeclaredMethod.ofType base).filter fun m => !m.method.isStatic && !m.method.isAbstract

/-- The members that a declared class implements, in order. -/
def ofDeclaration (u : Universe) (d : Declaration) : List ImplementedMember :=
  Ordered.ofList before ((candidates u d.className).filterMap (ofMethod? u d.kind))

end ImplementedMember

end PluginBuild
