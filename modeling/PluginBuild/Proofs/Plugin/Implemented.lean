import Mathlib.Data.List.TakeWhile
import PluginBuild.Plugin.Implemented
import PluginBuild.Proofs.Metadata.Universe
/-!
# Which dispatched members are reported

What a declared class maps a member to is reported for the method of the user that it comes down
to, unless an earlier hit along the chain of that method takes its place
(`signature_mem_or_other`). A method that stands for two members, and an interface that is listed
again below the type with the method, lead to members that are not reported
(`exists_unreported`).
-/

namespace PluginBuild

open Metadata

namespace Mapping

variable {u : Universe} {kind : PluginKind} {m : DeclaredMethod} {signature : String}

/-- The type of a method maps a member to it that has a contract with the signature. -/
def Implements (u : Universe) (kind : PluginKind) (m : DeclaredMethod) (signature : String) :
    Prop :=
  ∃ interface ∈ u.allInterfaces m.owner, ∃ member ∈ members u kind interface,
    signature = simpleName interface ++ "." ++ member.name ∧
      (kind.contract? signature).isSome = true ∧
      (implementation? u member m.owner).any (·.key = m.key) = true

/-- The signature found for a method is that of a member which its type maps to it. -/
theorem implements_of_signature? (h : signature? u kind m = some signature) :
    Implements u kind m signature := by
  obtain ⟨interface, hinterface, hmember⟩ := List.exists_of_findSome?_eq_some h
  obtain ⟨member, hmem, hsome⟩ := List.exists_of_findSome?_eq_some hmember
  dsimp only at hsome
  split at hsome
  · next hboth =>
    rw [Bool.and_eq_true] at hboth
    cases hsome
    exact ⟨interface, hinterface, member, hmem, rfl, hboth⟩
  · cases hsome

/-- A signature is found for a method to which its type maps a member with a contract. -/
theorem signature?_ne_none (h : Implements u kind m signature) : signature? u kind m ≠ none := by
  obtain ⟨interface, hinterface, member, hmem, rfl, hboth⟩ := h
  intro hnone
  have hfirst := List.findSome?_eq_none_iff.1 hnone interface hinterface
  have hsecond := List.findSome?_eq_none_iff.1 hfirst member hmem
  rw [if_pos (Bool.and_eq_true_iff.2 hboth)] at hsecond
  cases hsecond

/-- The owner of the method to which a type itself maps a member: the type, which states the
override, or one on the way up from it, where it lists the interface. -/
theorem owner_of_own? {member : MemberRef} {type : TypeDef} (h : own? u member type = some m) :
    m.owner = type ∨ u.declaresInterface type member.declaringType = true ∧
      m.owner ∈ u.ancestry type := by
  rcases Option.or_eq_some_iff.1 h with h | ⟨-, h⟩
  · obtain ⟨index, -, rfl⟩ := Option.map_eq_some_iff.1 h
    exact .inl rfl
  · split at h
    · next hdeclares =>
      obtain ⟨candidate, hcandidate, hfind⟩ := List.exists_of_findSome?_eq_some h
      obtain ⟨index, -, rfl⟩ := Option.map_eq_some_iff.1 hfind
      exact .inr ⟨hdeclares, hcandidate⟩
    · cases h

/-- A member of an interface refers to the interface. -/
theorem declaringType_of_mem_members {interface : String} {member : MemberRef}
    (h : member ∈ members u kind interface) : member.declaringType = interface := by
  rw [members] at h
  split at h
  · obtain ⟨method, -, rfl⟩ := List.mem_map.1 h
    rfl
  · split at h
    · obtain ⟨contract, -, rfl⟩ := List.mem_map.1 h
      rfl
    · cases h

/-- The types of a hierarchy below the one with a method. -/
def typesBelow (u : Universe) (c : TypeDef) (m : DeclaredMethod) : List TypeDef :=
  (u.ancestry c).takeWhile (·.fullName ≠ m.owner.fullName)

/-- The type that finds a mapping and the one with the method that is found are in sight. -/
theorem get?_owner {name : String} {c : TypeDef} {member : MemberRef}
    (hclass : u.get? name = some c) (h : own? u member c = some m) :
    u.get? m.owner.fullName = some m.owner := by
  rcases owner_of_own? h with rfl | ⟨-, hancestor⟩
  · rwa [Universe.fullName_of_get? hclass]
  · exact Universe.get?_of_mem_ancestry hclass hancestor

/-- Where no type below the one with the method lists the interface, a mapping is found on the way
up from the type with the method, and not below it. -/
theorem exists_above {name : String} {c : TypeDef} {member : MemberRef}
    (hclass : u.get? name = some c) (hmapped : implementation? u member c = some m)
    (hbelow : ∀ type ∈ typesBelow u c m,
      u.declaresInterface type member.declaringType = false) :
    ∃ above, u.ancestry c = typesBelow u c m ++ m.owner :: above ∧
      (m.owner :: above).findSome? (own? u member) = some m := by
  obtain ⟨before, t, after, hsplit, hown, hnone⟩ := List.findSome?_eq_some_iff.1 hmapped
  have hmem : t ∈ u.ancestry c := by simp [hsplit]
  have howner := get?_owner (Universe.get?_of_mem_ancestry hclass hmem) hown
  -- The mapping is not found below the owner: such a type would list the interface.
  have hnot : t ∉ typesBelow u c m := by
    intro hin
    rcases owner_of_own? hown with heq | ⟨hdeclares, -⟩
    · have hne := List.mem_takeWhile_imp hin
      simp [heq] at hne
    · rw [hbelow t hin] at hdeclares
      cases hdeclares
  have hwhole := List.takeWhile_append_dropWhile (p := (·.fullName ≠ m.owner.fullName))
    (l := u.ancestry c)
  have hfirst := List.head?_dropWhile_not (·.fullName ≠ m.owner.fullName) (u.ancestry c)
  rw [← typesBelow] at hwhole
  cases habove : (u.ancestry c).dropWhile (·.fullName ≠ m.owner.fullName) with
  | nil =>
    rw [habove, List.append_nil] at hwhole
    exact absurd (hwhole ▸ hmem) hnot
  | cons x above =>
    rw [habove] at hwhole hfirst
    have hx : x = m.owner := by
      have hname : x.fullName = m.owner.fullName := by simpa using hfirst
      have hget : u.get? x.fullName = some x :=
        Universe.get?_of_mem_ancestry hclass (by simp [← hwhole])
      rw [hname, howner] at hget
      exact (Option.some.inj hget).symm
    subst hx
    have hnoneBelow : ∀ y ∈ typesBelow u c m, own? u member y = none := by
      rw [hsplit] at hwhole
      rcases List.append_eq_append_iff.1 hwhole with ⟨rest, rfl, -⟩ | ⟨rest, hrest, hcons⟩
      · exact fun y hy => hnone y (List.mem_append_left _ hy)
      · cases rest with
        | nil => simpa [hrest] using hnone
        | cons y rest =>
          rw [List.cons_append] at hcons
          simp [hrest, (List.cons.inj hcons).1] at hnot
    refine ⟨above, hwhole.symm, ?_⟩
    rwa [implementation?, ← hwhole, List.findSome?_append,
      List.findSome?_eq_none_iff.2 hnoneBelow, Option.none_or] at hmapped

/-- Where no type of a hierarchy below the one with the method lists the interface, a method to
which the lowest type maps a member is also the one to which its own type maps it. -/
theorem implements_of_implementation? {name interface : String} {c : TypeDef} {member : MemberRef}
    (hclass : u.get? name = some c) (hinterface : interface ∈ u.allInterfaces c)
    (hmember : member ∈ members u kind interface)
    (hcontract : (kind.contract? (simpleName interface ++ "." ++ member.name)).isSome = true)
    (hmapped : implementation? u member c = some m)
    (hbelow : ∀ type ∈ typesBelow u c m, u.declaresInterface type interface = false) :
    Implements u kind m (simpleName interface ++ "." ++ member.name) := by
  obtain ⟨above, hwhole, hfound⟩ := exists_above hclass hmapped
    ((declaringType_of_mem_members hmember).symm ▸ hbelow)
  obtain ⟨more, hmore⟩ := Universe.prefix_ancestry_of_append hwhole
  refine ⟨interface, ?_, member, hmember, rfl, hcontract, ?_⟩
  · obtain ⟨base, hbase, hdeclares⟩ := Universe.mem_allInterfaces_iff.1 hinterface
    refine Universe.mem_allInterfaces_iff.2 ⟨base, ?_, hdeclares⟩
    rw [hwhole] at hbase
    rcases List.mem_append.1 hbase with hin | hin
    · rw [hbelow base hin] at hdeclares
      cases hdeclares
    · rw [← hmore]
      exact List.mem_append_left _ hin
  · have hself : implementation? u member m.owner = some m := by
      rw [implementation?, ← hmore, List.findSome?_append, hfound, Option.some_or]
    simp [hself]

end Mapping

namespace Overrides

theorem mem_chain_self (u : Universe) (m : DeclaredMethod) : m ∈ chain u m := by
  rw [chain, chainIn]
  split
  · simp
  · split <;> simp

end Overrides

namespace ImplementedMember

variable {u : Universe} {d : Declaration} {c : TypeDef} {interface : String} {member : MemberRef}
  {m m' : DeclaredMethod}

/-- The candidates belong to types of the user. -/
theorem isUser_of_mem_candidates {name : String} (h : m ∈ candidates u name) :
    u.isUser m.owner.fullName = true := by
  rw [candidates] at h
  split at h
  · cases h
  · obtain ⟨base, hbase, hmethod⟩ := List.mem_flatMap.1 h
    obtain ⟨index, -, rfl⟩ := List.mem_map.1 (List.mem_filter.1 hmethod).1
    have huser := List.mem_takeWhile_imp hbase
    exact huser

/-- The class of a declaration maps a member with a contract to a method, and the method is one
with code of the user's or one that such a method overrides. -/
structure Dispatches (u : Universe) (d : Declaration) (c : TypeDef) (interface : String)
    (member : MemberRef) (m m' : DeclaredMethod) : Prop where
  class_eq : u.get? d.className = some c
  interface_mem : interface ∈ u.allInterfaces c
  interface_name : simpleName interface = d.kind.interfaceName
  member_mem : member ∈ Mapping.members u d.kind interface
  contract : (d.kind.contract? (d.kind.signature member.name)).isSome = true
  mapped : Mapping.implementation? u member c = some m
  user : m' ∈ candidates u d.className
  overrides : m' = m ∨ m ∈ Overrides.chain u m'

/-- A candidate is reported for the first method on its chain to which the method's type maps a
member with a contract. -/
theorem exists_reported {before after : List DeclaredMethod} {signature : String}
    (huser : m' ∈ candidates u d.className)
    (hchain : Overrides.chain u m' = before ++ m :: after)
    (himplements : Mapping.Implements u d.kind m signature) :
    ∃ link other, link ∈ before ++ [m] ∧ Mapping.Implements u d.kind link other ∧
      (⟨other, m'.owner.fullName⟩ : ImplementedMember) ∈ ofDeclaration u d := by
  cases hfirst : (before ++ [m]).findSome? (Mapping.signature? u d.kind) with
  | none =>
    have hnone := List.findSome?_eq_none_iff.1 hfirst m (by simp)
    exact absurd hnone (Mapping.signature?_ne_none himplements)
  | some other =>
    obtain ⟨link, hlink, hsignature⟩ := List.exists_of_findSome?_eq_some hfirst
    refine ⟨link, other, hlink, Mapping.implements_of_signature? hsignature, ?_⟩
    have hresolve : Mapping.resolve? u d.kind m' = some other := by
      have hsplit : before ++ m :: after = (before ++ [m]) ++ after := by simp
      rw [Mapping.resolve?, if_pos (isUser_of_mem_candidates huser), hchain, hsplit,
        List.findSome?_append, hfirst, Option.some_or, Option.some_or]
    refine Ordered.mem_ofList.2 (List.mem_filterMap.2 ⟨m', huser, ?_⟩)
    rw [ofMethod?, hresolve, Option.map_some]

/-- The signature of a member that the declared class dispatches to code of the user is reported,
or another one takes its place: one that a method of the chain, no further than the one dispatched
to, stands for in its own type. Where a type below that of the method lists the interface again,
the method's own type has to map the member to it as well. -/
theorem signature_mem_or_other (h : Dispatches u d c interface member m m')
    (hagain : (∃ type ∈ Mapping.typesBelow u c m,
        u.declaresInterface type interface = true) →
      Mapping.Implements u d.kind m (d.kind.signature member.name)) :
    (∃ x ∈ ofDeclaration u d, x.signature = d.kind.signature member.name) ∨
      ∃ before after link other, Overrides.chain u m' = before ++ m :: after ∧
        link ∈ before ++ [m] ∧ other ≠ d.kind.signature member.name ∧
        Mapping.Implements u d.kind link other ∧
        (⟨other, m'.owner.fullName⟩ : ImplementedMember) ∈ ofDeclaration u d := by
  have hsignature : d.kind.signature member.name = simpleName interface ++ "." ++ member.name := by
    rw [h.interface_name, PluginKind.signature]
  have himplements : Mapping.Implements u d.kind m (d.kind.signature member.name) := by
    by_cases hlisted : ∃ type ∈ Mapping.typesBelow u c m,
        u.declaresInterface type interface = true
    · exact hagain hlisted
    · have hbelow : ∀ type ∈ Mapping.typesBelow u c m,
          u.declaresInterface type interface = false := fun type htype =>
        Bool.eq_false_iff.2 fun hdeclares => hlisted ⟨type, htype, hdeclares⟩
      rw [hsignature]
      exact Mapping.implements_of_implementation? h.class_eq h.interface_mem h.member_mem
        (hsignature ▸ h.contract) h.mapped hbelow
  have hmem : m ∈ Overrides.chain u m' := by
    rcases h.overrides with rfl | hmem
    · exact Overrides.mem_chain_self u m'
    · exact hmem
  obtain ⟨before, after, hchain⟩ := List.append_of_mem hmem
  obtain ⟨link, other, hlink, hother, hreported⟩ := exists_reported h.user hchain himplements
  by_cases heq : other = d.kind.signature member.name
  · exact .inl ⟨_, hreported, heq⟩
  · exact .inr ⟨before, after, link, other, hchain, hlink, heq, hother, hreported⟩

/-- A public virtual method that takes no other's place. -/
def newMethod (name : String) (overrides : List MemberRef) : Method :=
  { name, params := [], visibility := .public, isStatic := false, isVirtual := true
    isAbstract := false, isNewslot := true, isFinal := false, overrides }

/-- A class of the user. -/
def userClass (fullName baseType : String) (interfaces : List String) (methods : List Method) :
    TypeDef :=
  { fullName, kind := .class, isAbstract := false, baseType := some baseType, interfaces, methods
    attributes := [] }

/-- The types of a user module that refers to no other. -/
def userTypes (types : List TypeDef) : Universe := .ofModules ⟨⟨"Sample", none⟩, [], types⟩ []

/-- The declaration of the class `Fs`. -/
def fsDeclaration : Declaration := ⟨.fileSystem, "Fs"⟩

/-- The reference to a member of the interface of file systems. -/
def fsMember (name : String) : MemberRef := ⟨"IFsPlugin", name, none⟩

/-- A class that implements a member of its interface. -/
def implementing : TypeDef := userClass "Base" "FsPlugin" ["IFsPlugin"] [newMethod "MkDir" []]

/-- A class that overrides the method by which its base type implements a member. -/
def overriding : TypeDef :=
  userClass "Fs" "Base" [] [{ newMethod "MkDir" [] with isNewslot := false }]

/-- The override of the method by which a base type implements a member is reported for it. -/
theorem signature_mem_of_overriding :
    ∃ x ∈ ofDeclaration (userTypes [implementing, overriding]) fsDeclaration,
      x.signature = "IFsPlugin.MkDir" := by
  have hdispatches : Dispatches (userTypes [implementing, overriding]) fsDeclaration overriding
      "IFsPlugin" (fsMember "MkDir") ⟨implementing, ⟨0, by decide⟩⟩ ⟨overriding, ⟨0, by decide⟩⟩ :=
    ⟨by decide +kernel, by decide +kernel, by decide +kernel, by decide +kernel,
      by decide +kernel, by decide +kernel, by decide +kernel, by decide +kernel⟩
  have honly : ∀ x ∈ ofDeclaration (userTypes [implementing, overriding]) fsDeclaration,
      x.signature = "IFsPlugin.MkDir" := by
    decide +kernel
  rcases signature_mem_or_other hdispatches (fun hlisted => absurd hlisted (by decide +kernel)) with
    h | ⟨_, _, _, other, -, -, hne, -, hreported⟩
  · exact h
  · exact absurd (honly _ hreported) hne

/-- A member that the declared class dispatches to code of the user is not reported. -/
def Unreported (u : Universe) (d : Declaration) : Prop :=
  ∃ c interface member m m', Dispatches u d c interface member m m' ∧
    ∀ x ∈ ofDeclaration u d, x.signature ≠ d.kind.signature member.name

/-- A class whose one method stands for two members. -/
def standingForTwo : TypeDef :=
  userClass "Fs" "FsPlugin" ["IFsPlugin"]
    [newMethod "Change" [fsMember "MkDir", fsMember "RemoveDir"]]

/-- A class with a method of a member, which does not list the interface. -/
def unlisted : TypeDef := userClass "Base" "FsPlugin" [] [newMethod "MkDir" []]

/-- A class that lists the interface and inherits the method of its member. -/
def listing : TypeDef := userClass "Fs" "Base" ["IFsPlugin"] []

/-- Of the two members that one method stands for the second is not reported, and neither is a
member by a method whose type does not list the interface, while the declared class does. -/
theorem exists_unreported :
    Unreported (userTypes [standingForTwo]) fsDeclaration ∧
      Unreported (userTypes [unlisted, listing]) fsDeclaration := by
  constructor
  · refine ⟨standingForTwo, "IFsPlugin", fsMember "RemoveDir", ⟨standingForTwo, ⟨0, by decide⟩⟩,
      ⟨standingForTwo, ⟨0, by decide⟩⟩, ⟨?_, ?_, ?_, ?_, ?_, ?_, ?_, ?_⟩, ?_⟩ <;> decide +kernel
  · refine ⟨listing, "IFsPlugin", fsMember "MkDir", ⟨unlisted, ⟨0, by decide⟩⟩,
      ⟨unlisted, ⟨0, by decide⟩⟩, ⟨?_, ?_, ?_, ?_, ?_, ?_, ?_, ?_⟩, ?_⟩ <;> decide +kernel

end ImplementedMember

end PluginBuild
