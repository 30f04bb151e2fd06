import Mathlib.Data.Option.Basic
import PluginBuild.Proofs.Metadata.UserChain
import PluginBuild.Proofs.Plugin.Implemented
/-!
# Members without the references

A plugin can be analysed without the modules that it refers to: an override of the kind's base
class then counts by its name. For a class that implements members only by overrides of its base
classes (`Ordinary`) nothing is lost that way (`ImplementedMember.mem_without_references`). With the
references in sight, each of its members is found on a chain of overrides at a method of a
reference, and all methods of a chain have one name.
-/

namespace PluginBuild

open Metadata

/-- The text up to the dot is known by the text before and after the dot. -/
theorem Metadata.eq_of_append_dot {x y a b : String} (hx : '.' ∉ x.toList) (hy : '.' ∉ y.toList)
    (h : x ++ "." ++ a = y ++ "." ++ b) : x = y := by
  have hbefore {s t : String} (hs : '.' ∉ s.toList) :
      (s ++ "." ++ t).toList.takeWhile (· ≠ '.') = s.toList := by
    have hall : ∀ c ∈ s.toList, decide (c ≠ '.') = true := fun c hc =>
      decide_eq_true fun hdot => hs (hdot ▸ hc)
    rw [String.toList_append, String.toList_append, List.append_assoc,
      List.takeWhile_append_of_pos hall]
    simp
  have hlist : x.toList = y.toList := by rw [← hbefore (t := a) hx, h, hbefore hy]
  exact String.toList_inj.1 hlist

theorem Metadata.dot_notMem_simpleName (name : String) : '.' ∉ (simpleName name).toList := by
  rw [simpleName, String.toList_ofList, List.mem_reverse]
  intro hdot
  simpa using List.mem_takeWhile_imp hdot

namespace PluginKind

theorem dot_notMem_interfaceName (kind : PluginKind) : '.' ∉ kind.interfaceName.toList := by
  cases kind <;> decide

/-- A signature with a contract starts with the name of the kind's interface. -/
theorem interfaceName_of_contract? {kind : PluginKind} {interface member : String}
    (h : (kind.contract? (simpleName interface ++ "." ++ member)).isSome = true) :
    simpleName interface = kind.interfaceName := by
  obtain ⟨contract, hcontract⟩ := Option.isSome_iff_exists.1 h
  have hsame : kind.signature contract.member = simpleName interface ++ "." ++ member := by
    simpa using List.find?_some hcontract
  exact eq_of_append_dot (dot_notMem_simpleName interface) kind.dot_notMem_interfaceName hsame.symm

/-- A signature with a contract is one of the kind's own interface. -/
theorem signature_eq_of_contract? {kind : PluginKind} {interface member : String}
    (h : (kind.contract? (simpleName interface ++ "." ++ member)).isSome = true) :
    simpleName interface ++ "." ++ member = kind.signature member := by
  rw [interfaceName_of_contract? h, signature]

end PluginKind

namespace DeclaredMethod

theorem method_mem (m : DeclaredMethod) : m.method ∈ m.owner.methods := List.getElem_mem _

/-- The method that is found in a type belongs to it and meets the condition. -/
theorem of_find? {owner : TypeDef} {condition : Method → Bool} {m : DeclaredMethod}
    (h : find? owner condition = some m) : m.owner = owner ∧ condition m.method = true := by
  obtain ⟨index, hindex, rfl⟩ := Option.map_eq_some_iff.1 h
  exact ⟨rfl, (List.findFinIdx?_eq_some_iff.1 hindex).1⟩

/-- Methods of one type are known by their keys. -/
theorem eq_of_owner_of_key {m other : DeclaredMethod} (howner : m.owner = other.owner)
    (h : m.key = other.key) : m = other := by
  obtain ⟨owner, index⟩ := m
  obtain ⟨owner', index'⟩ := other
  dsimp only at howner
  subst howner
  obtain rfl : index = index' := Fin.ext (Prod.mk.inj h).2
  rfl

/-- Methods of types in sight are known by their keys. -/
theorem eq_of_key {u : Universe} {m other : DeclaredMethod}
    (hm : u.get? m.owner.fullName = some m.owner)
    (hother : u.get? other.owner.fullName = some other.owner) (h : m.key = other.key) :
    m = other := by
  have hname : m.owner.fullName = other.owner.fullName := (Prod.mk.inj h).1
  rw [hname, hother] at hm
  exact eq_of_owner_of_key (Option.some.inj hm).symm h

end DeclaredMethod

/-- No method of a type in sight states what it overrides. -/
def Unstated (u : Universe) : Prop :=
  ∀ name type, u.get? name = some type → ∀ m ∈ type.methods, m.overrides = []

variable {u : Universe} {kind : PluginKind} {m link : DeclaredMethod}

theorem Unstated.overrides_eq (h : Unstated u) (hm : u.get? m.owner.fullName = some m.owner) :
    m.method.overrides = [] :=
  h _ _ hm _ m.method_mem

namespace Overrides

/-- What a method overrides without saying so is a method of its name, in a type above its own. -/
theorem of_inherited? (h : inherited? u m = some link) :
    m.method.isOverride = true ∧ link.owner ∈ u.ancestry m.owner ∧
      link.method.name = m.method.name := by
  rw [inherited?] at h
  split at h
  · next hoverride =>
    obtain ⟨base, hbase, hfind⟩ := List.exists_of_findSome?_eq_some h
    obtain ⟨rfl, hcondition⟩ := DeclaredMethod.of_find? hfind
    have hsame := (Bool.and_eq_true_iff.1 hcondition).2
    rw [Method.hasSignatureOf, decide_eq_true_iff] at hsame
    exact ⟨hoverride, List.mem_of_mem_drop hbase, hsame.1⟩
  · cases h

theorem next?_eq_inherited? (h : m.method.overrides = []) : next? u m = inherited? u m := by
  rw [next?, stated?, h, List.findSome?_nil, Option.none_or]

/-- Where nothing is stated, all methods of a chain have the name of the first, and only an override
has others behind it. -/
theorem of_mem_chainIn {unseen : List (String × Nat)} (hu : Unstated u)
    (hm : u.get? m.owner.fullName = some m.owner) (h : link ∈ chainIn u unseen m) :
    u.get? link.owner.fullName = some link.owner ∧ link.method.name = m.method.name ∧
      (link = m ∨ m.method.isOverride = true) := by
  fun_induction chainIn u unseen m with
  | case1 unseen m hnone =>
    rw [List.mem_singleton.1 h]
    exact ⟨hm, rfl, .inl rfl⟩
  | case2 unseen m next hnext hunseen ih =>
    rcases List.mem_cons.1 h with rfl | h
    · exact ⟨hm, rfl, .inl rfl⟩
    rw [next?_eq_inherited? (hu.overrides_eq hm)] at hnext
    obtain ⟨hoverride, hancestor, hname⟩ := of_inherited? hnext
    obtain ⟨hsight, hlink, -⟩ := ih (Universe.get?_of_mem_ancestry hm hancestor) h
    exact ⟨hsight, hlink.trans hname, .inr hoverride⟩
  | case3 unseen m next hnext hunseen =>
    rw [List.mem_singleton.1 h]
    exact ⟨hm, rfl, .inl rfl⟩

end Overrides

namespace Mapping

/-- Where nothing is stated, a member is mapped to a method of its name by a type that lists the
interface, on the way up from there. -/
theorem of_own? {member : MemberRef} {type : TypeDef} (hu : Unstated u)
    (htype : u.get? type.fullName = some type) (h : own? u member type = some m) :
    u.declaresInterface type member.declaringType = true ∧ m.owner ∈ u.ancestry type ∧
      member.name = m.method.name := by
  rcases Option.or_eq_some_iff.1 h with h | ⟨-, h⟩
  · -- The method would have to state the member.
    obtain ⟨rfl, hstated⟩ := DeclaredMethod.of_find? h
    rw [hu.overrides_eq htype] at hstated
    cases hstated
  · split at h
    · next hdeclares =>
      obtain ⟨candidate, hcandidate, hfind⟩ := List.exists_of_findSome?_eq_some h
      obtain ⟨rfl, hcondition⟩ := DeclaredMethod.of_find? hfind
      have hfits := (Bool.and_eq_true_iff.1 hcondition).2
      rw [MemberRef.fits, decide_eq_true_iff] at hfits
      exact ⟨hdeclares, hcandidate, hfits.1⟩
    · cases h

/-- Where nothing is stated, a hit is a method with the name of a member of the kind, and a type
that lists an interface has the method's type on the way up from it. -/
theorem exists_lister {signature : String} (hu : Unstated u)
    (hm : u.get? m.owner.fullName = some m.owner) (h : signature? u kind m = some signature) :
    (kind.contract? signature).isSome = true ∧ signature = kind.signature m.method.name ∧
      ∃ lister interface, u.get? lister.fullName = some lister ∧
        u.declaresInterface lister interface = true ∧ m.owner ∈ u.ancestry lister := by
  obtain ⟨interface, -, member, -, rfl, hcontract, hmapped⟩ := implements_of_signature? h
  obtain ⟨found, hfound, hkey⟩ := (Option.any_eq_true ..).1 hmapped
  obtain ⟨lister, hlister, hown⟩ := List.exists_of_findSome?_eq_some hfound
  have hsight := Universe.get?_of_mem_ancestry hm hlister
  obtain ⟨hdeclares, hancestor, hname⟩ := of_own? hu hsight hown
  have howner := Universe.get?_of_mem_ancestry hsight hancestor
  obtain rfl : found = m := DeclaredMethod.eq_of_key howner hm (of_decide_eq_true hkey)
  rw [← hname]
  exact ⟨hcontract, PluginKind.signature_eq_of_contract? hcontract, lister, _, hsight, hdeclares,
    hancestor⟩

/-- A hit by name is a public override with the name of a member of the kind, in a type whose walk
ends below the base class of the kind. -/
theorem signatureByName?_eq_some_iff {signature : String} :
    signatureByName? u kind m = some signature ↔
      (m.method.isOverride = true ∧ m.method.visibility = .public) ∧
        (∃ root, (u.ancestry m.owner).getLast? = some root ∧ ∃ base, root.baseType = some base ∧
          u.get? base = none ∧ simpleName base = kind.baseClassName) ∧
        (kind.contract? signature).isSome = true ∧ signature = kind.signature m.method.name := by
  simp only [signatureByName?, Option.bind_eq_bind, Option.bind_eq_some_iff, Option.guard_eq_some',
    Option.pure_def, Option.some.injEq, Bool.and_eq_true, decide_eq_true_iff,
    Option.isNone_iff_eq_none]
  constructor
  · rintro ⟨-, hoverride, root, hroot, base, hbase, -, hend, -, hcontract, rfl⟩
    exact ⟨hoverride, ⟨root, hroot, base, hbase, hend⟩, hcontract, rfl⟩
  · rintro ⟨hoverride, ⟨root, hroot, base, hbase, hend⟩, hcontract, rfl⟩
    exact ⟨(), hoverride, root, hroot, base, hbase, (), hend, (), hcontract, rfl⟩

end Mapping

namespace ImplementedMember

/-- The candidates of a class with a chain are methods of its types. -/
theorem candidates_of_userChain {user : Module} {name simple : String} {c : TypeDef}
    {chain : List TypeDef} (hclass : (Universe.ofUser user).get? name = some c)
    (hchain : Universe.UserChain user simple c chain) (references : List Module) :
    candidates (.ofModules user references) name =
      chain.flatMap fun base => (DeclaredMethod.ofType base).filter fun m =>
        !m.method.isStatic && !m.method.isAbstract := by
  have hc : (Universe.ofUser user).get? c.fullName = some c := by
    rwa [Universe.fullName_of_get? hclass]
  rw [candidates, Universe.get?_ofModules_of_user hclass]
  dsimp only
  rw [hchain.takeWhile_isUser_ancestry hc references]

end ImplementedMember

/-- A plugin that implements members by overrides of its base classes alone: no method says what it
overrides, the user's types list no interfaces and have no overrides but public ones, the base types
of a reference's type are none of the user's, and the base types of the declared class are the
user's up to the base class of the kind, which is not. -/
structure Ordinary (user : Module) (references : List Module) (d : Declaration) : Prop where
  unstated : Unstated (.ofModules user references)
  noInterfaces : ∀ name type, (Universe.ofUser user).get? name = some type → type.interfaces = []
  publicOverrides : ∀ name type, (Universe.ofUser user).get? name = some type →
    ∀ m ∈ type.methods, m.isOverride = true → m.visibility = .public
  apart : ∀ name type, (Universe.ofModules user references).get? name = some type →
    (Universe.ofUser user).get? name = none →
      ∀ base ∈ (Universe.ofModules user references).ancestry type,
        (Universe.ofUser user).get? base.fullName = none
  derives : ∀ c, (Universe.ofUser user).get? d.className = some c →
    ∃ chain, Universe.UserChain user d.kind.baseClassName c chain

namespace Ordinary

variable {user : Module} {references : List Module} {d : Declaration} {c : TypeDef}
  {chain : List TypeDef}

/-- A type that lists an interface is not the user's. -/
theorem not_isUser_of_declaresInterface (h : Ordinary user references d) {type : TypeDef}
    {interface : String}
    (htype : (Universe.ofModules user references).get? type.fullName = some type)
    (hdeclares : (Universe.ofModules user references).declaresInterface type interface = true) :
    (Universe.ofUser user).get? type.fullName = none := by
  rw [Option.eq_none_iff_forall_ne_some]
  intro other hother
  obtain rfl : other = type :=
    Option.some.inj ((Universe.get?_ofModules_of_user hother).symm.trans htype)
  obtain ⟨start, hstart, -⟩ := Universe.declaresInterface_iff.1 hdeclares
  rw [h.noInterfaces _ _ hother] at hstart
  cases hstart

/-- What is reported for a method of the user with the references in sight is the member with its
name, and the method is an override. -/
theorem of_resolve? (h : Ordinary user references d) {signature : String}
    (hm : (Universe.ofUser user).get? m.owner.fullName = some m.owner)
    (hresolve : Mapping.resolve? (.ofModules user references) d.kind m = some signature) :
    m.method.isOverride = true ∧ (d.kind.contract? signature).isSome = true ∧
      signature = d.kind.signature m.method.name := by
  have hsight : (Universe.ofModules user references).get? m.owner.fullName = some m.owner :=
    Universe.get?_ofModules_of_user hm
  rw [Mapping.resolve?] at hresolve
  split at hresolve
  · rcases Option.or_eq_some_iff.1 hresolve with hresolve | ⟨-, hname⟩
    · obtain ⟨link, hlink, hhit⟩ := List.exists_of_findSome?_eq_some hresolve
      obtain ⟨hlinkSight, hsame, hself⟩ := Overrides.of_mem_chainIn h.unstated hsight hlink
      obtain ⟨hcontract, hsignature, lister, interface, hlister, hdeclares, hancestor⟩ :=
        Mapping.exists_lister h.unstated hlinkSight hhit
      -- The link is a method of a reference, so it is not the method itself.
      have hnotUser := h.apart _ _ hlister (h.not_isUser_of_declaresInterface hlister hdeclares)
        _ hancestor
      have hne : link ≠ m := by
        rintro rfl
        cases hnotUser.symm.trans hm
      exact ⟨hself.resolve_left hne, hcontract, hsame ▸ hsignature⟩
    · obtain ⟨hoverride, -, hsignature⟩ := Mapping.signatureByName?_eq_some_iff.1 hname
      exact ⟨hoverride.1, hsignature⟩
  · cases hresolve

/-- Without references, no type in sight implements an interface. -/
theorem signature?_ofUser (h : Ordinary user references d)
    (hm : (Universe.ofUser user).get? m.owner.fullName = some m.owner) :
    Mapping.signature? (.ofUser user) d.kind m = none := by
  rw [Option.eq_none_iff_forall_ne_some]
  intro signature hhit
  obtain ⟨interface, hinterface, -⟩ := Mapping.implements_of_signature? hhit
  obtain ⟨base, hbase, hdeclares⟩ := Universe.mem_allInterfaces_iff.1 hinterface
  obtain ⟨start, hstart, -⟩ := Universe.declaresInterface_iff.1 hdeclares
  rw [h.noInterfaces _ _ (Universe.get?_of_mem_ancestry hm hbase)] at hstart
  cases hstart

/-- Without references, the member with the name of an override is reported for it. -/
theorem resolve?_ofUser (h : Ordinary user references d)
    (hm : (Universe.ofUser user).get? m.owner.fullName = some m.owner)
    (hchain : Universe.UserChain user d.kind.baseClassName m.owner chain)
    (hoverride : m.method.isOverride = true)
    (hcontract : (d.kind.contract? (d.kind.signature m.method.name)).isSome = true) :
    Mapping.resolve? (.ofUser user) d.kind m = some (d.kind.signature m.method.name) := by
  have huser : (Universe.ofUser user).isUser m.owner.fullName = true := by
    rw [Universe.ofUser, Universe.isUser_ofModules, hm, Option.isSome_some]
  have hstated : Unstated (.ofUser user) := fun name type htype =>
    h.unstated name type (Universe.get?_ofModules_of_user htype)
  have hmisses : (Overrides.chain (.ofUser user) m).findSome?
      (Mapping.signature? (.ofUser user) d.kind) = none :=
    List.findSome?_eq_none_iff.2 fun link hlink =>
      h.signature?_ofUser (Overrides.of_mem_chainIn hstated hm hlink).1
  obtain ⟨root, base, hroot, hbase, houtside, hsimple⟩ := hchain.exists_getLast?
  have hpublic := h.publicOverrides _ _ hm _ m.method_mem hoverride
  have hname : Mapping.signatureByName? (.ofUser user) d.kind m =
      some (d.kind.signature m.method.name) :=
    Mapping.signatureByName?_eq_some_iff.2 ⟨⟨hoverride, hpublic⟩,
      ⟨root, by rwa [hchain.ancestry_ofUser hm], base, hbase, houtside, hsimple⟩, hcontract, rfl⟩
  rw [Mapping.resolve?, if_pos huser, hmisses, Option.none_or, hname]

/-- The candidates of the declared class are the same with and without references. -/
theorem candidates_eq (h : Ordinary user references d) :
    ImplementedMember.candidates (.ofModules user references) d.className =
      ImplementedMember.candidates (.ofUser user) d.className := by
  cases hclass : (Universe.ofUser user).get? d.className with
  | none =>
    -- A class that is not the user's has no candidates, in sight or not.
    rw [ImplementedMember.candidates, ImplementedMember.candidates, hclass]
    split
    · rfl
    · next c hc =>
      have houtside : (Universe.ofModules user references).isUser c.fullName = false := by
        rw [Universe.isUser_ofModules, Universe.fullName_of_get? hc, hclass, Option.isSome_none]
      obtain ⟨above, habove⟩ := Universe.exists_ancestryIn_eq_cons
        ((Universe.ofModules user references).without c.fullName) c
      rw [Universe.ancestry, habove, List.takeWhile_cons, houtside]
      rfl
  | some c =>
    obtain ⟨chain, hchain⟩ := h.derives c hclass
    have hwithout := ImplementedMember.candidates_of_userChain hclass hchain []
    rw [ImplementedMember.candidates_of_userChain hclass hchain references, Universe.ofUser,
      hwithout]

/-- The candidates of the declared class are methods of user types below the base class of the
kind. -/
theorem of_mem_candidates (h : Ordinary user references d)
    (hm : m ∈ ImplementedMember.candidates (.ofUser user) d.className) :
    (Universe.ofUser user).get? m.owner.fullName = some m.owner ∧
      ∃ chain, Universe.UserChain user d.kind.baseClassName m.owner chain := by
  cases hclass : (Universe.ofUser user).get? d.className with
  | none =>
    rw [ImplementedMember.candidates, hclass] at hm
    cases hm
  | some c =>
    obtain ⟨chain, hchain⟩ := h.derives c hclass
    have hc : (Universe.ofUser user).get? c.fullName = some c := by
      rwa [Universe.fullName_of_get? hclass]
    rw [Universe.ofUser, ImplementedMember.candidates_of_userChain hclass hchain []] at hm
    obtain ⟨owner, howner, hmethod⟩ := List.mem_flatMap.1 hm
    obtain ⟨index, -, rfl⟩ := List.mem_map.1 (List.mem_filter.1 hmethod).1
    exact ⟨hchain.get?_of_mem hc howner, hchain.exists_of_mem howner⟩

end Ordinary

namespace ImplementedMember

variable {user : Module} {references : List Module} {d : Declaration}

/-- What is reported of an ordinary plugin with the references in sight is reported without them. -/
theorem mem_without_references (h : Ordinary user references d) :
    ∀ x ∈ ofDeclaration (.ofModules user references) d,
      x ∈ ofDeclaration (.ofModules user []) d := by
  intro x hx
  obtain ⟨m, hm, hreported⟩ := List.mem_filterMap.1 (Ordered.mem_ofList.1 hx)
  obtain ⟨signature, hresolve, rfl⟩ := Option.map_eq_some_iff.1 hreported
  rw [h.candidates_eq] at hm
  obtain ⟨hsight, chain, hchain⟩ := h.of_mem_candidates hm
  obtain ⟨hoverride, hcontract, rfl⟩ := h.of_resolve? hsight hresolve
  refine Ordered.mem_ofList.2 (List.mem_filterMap.2 ⟨m, hm, ?_⟩)
  have hname := h.resolve?_ofUser hsight hchain hoverride hcontract
  rw [Universe.ofUser] at hname
  rw [ofMethod?, hname, Option.map_some]

/-- A user module with a class that overrides a method of its base type, which overrides one of the
base class of file systems. -/
def overridingModule : Module :=
  ⟨⟨"Sample", none⟩, [], [userClass "Base" "FsPlugin" [] overriding.methods, overriding]⟩

/-- A module with the interface and the base class of file systems. -/
def fsModule : Module :=
  ⟨⟨"Plugins", none⟩, [],
    [{ implementing with fullName := "IFsPlugin", kind := .interface, interfaces := [] },
      { implementing with fullName := "FsPlugin", baseType := none }]⟩

theorem ordinary_overridingModule : Ordinary overridingModule [fsModule] fsDeclaration where
  unstated _ _ h := Universe.of_get? (p := fun type => ∀ m ∈ type.methods, m.overrides = [])
    (by decide +kernel) h
  noInterfaces _ _ h := Universe.of_get? (p := fun type => type.interfaces = [])
    (by decide +kernel) h
  publicOverrides _ _ h := Universe.of_get? (p := fun type => ∀ m ∈ type.methods,
    m.isOverride = true → m.visibility = .public) (by decide +kernel) h
  apart name type h := by
    obtain rfl := Universe.fullName_of_get? h
    refine Universe.of_get? (p := fun type =>
      (Universe.ofUser overridingModule).get? type.fullName = none →
        ∀ base ∈ (Universe.ofModules overridingModule [fsModule]).ancestry type,
          (Universe.ofUser overridingModule).get? base.fullName = none) ?_ h
    decide +kernel
  derives c h := by
    have hclass : (Universe.ofUser overridingModule).get? "Fs" = some overriding := by
      decide +kernel
    obtain rfl : overriding = c := Option.some.inj (hclass.symm.trans h)
    exact ⟨_, .step rfl rfl (.last rfl (by decide +kernel) (by decide +kernel))⟩

/-- Both overrides of the sample are reported with the base class in sight and without it. -/
theorem mem_without_references_overridingModule :
    ofDeclaration (.ofModules overridingModule [fsModule]) fsDeclaration =
        [⟨"IFsPlugin.MkDir", "Base"⟩, ⟨"IFsPlugin.MkDir", "Fs"⟩] ∧
      ⟨"IFsPlugin.MkDir", "Base"⟩ ∈ ofDeclaration (.ofModules overridingModule []) fsDeclaration ∧
      ⟨"IFsPlugin.MkDir", "Fs"⟩ ∈ ofDeclaration (.ofModules overridingModule []) fsDeclaration := by
  have hwith : ofDeclaration (.ofModules overridingModule [fsModule]) fsDeclaration =
      [⟨"IFsPlugin.MkDir", "Base"⟩, ⟨"IFsPlugin.MkDir", "Fs"⟩] := by
    decide +kernel
  have hwithout := mem_without_references ordinary_overridingModule
  rw [hwith] at hwithout
  exact ⟨hwith, hwithout _ (by simp), hwithout _ (by simp)⟩

end ImplementedMember

end PluginBuild
