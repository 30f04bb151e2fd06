import PluginBuild.Proofs.Metadata.Hierarchy
import PluginBuild.Proofs.Plugin.WithoutReferences
/-!
# Methods that hide others

A virtual method with a slot of its own does not override what has its signature above it, it hides
it. No mapping of a type above leads back to the method (`Hides.eq_of_own?`), so that it stands for
a member only where its own type lists the interface again, and is the type's own choice for the
member (`Hides.implements_iff`). Where the type does not list the interface, nothing is reported for
the method, although a method that it hides may be (`ImplementedMember.reported_iff_reimplements`).
-/

namespace PluginBuild

open Metadata

/-- A method with a slot of its own that does not say what it overrides, in a type that is not
above its own base type. -/
structure Hides (u : Universe) (m : DeclaredMethod) : Prop where
  newslot : m.method.isNewslot = true
  unstated : m.method.overrides = []
  apart : ∀ base, u.baseOf? m.owner = some base →
    ∀ type ∈ u.ancestry base, type.fullName ≠ m.owner.fullName

/-- The type of a method lists the kind's interface itself or by way of another, and maps a member
of it to the method: it has no other method that says so, and none before the method that fits. -/
def Reimplements (u : Universe) (kind : PluginKind) (m : DeclaredMethod) : Prop :=
  ∃ interface, simpleName interface = kind.interfaceName ∧
    u.declaresInterface m.owner interface = true ∧
    ∃ member ∈ Mapping.members u kind interface,
      (kind.contract? (kind.signature member.name)).isSome = true ∧
      DeclaredMethod.find? m.owner (·.overrides.any (·.isSame member)) = none ∧
      DeclaredMethod.find? m.owner (fun other => other.isPublicVirtual && member.fits other) =
        some m

namespace Hides

variable {u : Universe} {kind : PluginKind} {m found : DeclaredMethod} {member : MemberRef}
  {type : TypeDef}

theorem not_isOverride (h : Hides u m) : m.method.isOverride = false := by
  rw [Method.isOverride, h.newslot, Bool.not_true, Bool.and_false]

/-- Nothing is overridden by a method that hides what it has the signature of. -/
theorem chain_eq (h : Hides u m) : Overrides.chain u m = [m] := by
  have hnext : Overrides.next? u m = none := by
    rw [Overrides.next?_eq_inherited? h.unstated, Overrides.inherited?, h.not_isOverride,
      if_neg Bool.false_ne_true]
  rw [Overrides.chain, Overrides.chainIn]
  split
  · rfl
  · next next hsome => cases hnext.symm.trans hsome

/-- The walk up from another type on the walk does not come back to the type of the method. -/
theorem eq_of_mem_ancestry_of_mem (h : Hides u m) {other : TypeDef}
    (htype : type ∈ u.ancestry m.owner) (hother : other ∈ u.ancestry type)
    (hname : other.fullName = m.owner.fullName) : type = m.owner := by
  rcases u.ancestry_cases m.owner with hend | ⟨base, above, hbase, hstep, habove⟩
  · rw [hend] at htype
    exact List.mem_singleton.1 htype
  · rw [hstep] at htype
    rcases List.mem_cons.1 htype with heq | hmem
    · exact heq
    · obtain ⟨baseName, -, hget⟩ := Universe.baseOf?_eq_some_iff.1 hbase
      have hsight : u.get? base.fullName = some base := by rwa [Universe.fullName_of_get? hget]
      have hin := Universe.ancestry_subset hsight (habove.subset hmem) hother
      exact absurd hname (h.apart base hbase other hin)

/-- No other type on the walk up from the type of the method has its name. -/
theorem eq_of_mem_ancestry (h : Hides u m) (htype : type ∈ u.ancestry m.owner)
    (hname : type.fullName = m.owner.fullName) : type = m.owner :=
  h.eq_of_mem_ancestry_of_mem htype (u.mem_ancestry_self type) hname

/-- Of the types on the walk up from its own, only that one can map a member to the method, and
only if it lists the interface and the method is the first of its own that fits. -/
theorem eq_of_own? (h : Hides u m) (htype : type ∈ u.ancestry m.owner)
    (hown : Mapping.own? u member type = some found) (hkey : found.key = m.key) :
    type = m.owner ∧ found = m ∧ u.declaresInterface m.owner member.declaringType = true ∧
      DeclaredMethod.find? m.owner (·.overrides.any (·.isSame member)) = none ∧
      DeclaredMethod.find? m.owner (fun other => other.isPublicVirtual && member.fits other) =
        some m := by
  have hname : found.owner.fullName = m.owner.fullName := (Prod.mk.inj hkey).1
  rcases Option.or_eq_some_iff.1 hown with hstated | ⟨hunstated, hfits⟩
  · -- A method that says that it stands for the member is another one.
    obtain ⟨howner, hsame⟩ := DeclaredMethod.of_find? hstated
    have hfirst : type = m.owner := h.eq_of_mem_ancestry htype (howner ▸ hname)
    obtain rfl : found = m := DeclaredMethod.eq_of_owner_of_key (howner.trans hfirst) hkey
    rw [h.unstated] at hsame
    cases hsame
  · split at hfits
    · next hdeclares =>
      obtain ⟨candidate, hcandidate, hfind⟩ := List.exists_of_findSome?_eq_some hfits
      obtain ⟨howner, -⟩ := DeclaredMethod.of_find? hfind
      have hcandidateName : candidate.fullName = m.owner.fullName := howner ▸ hname
      obtain rfl : type = m.owner := h.eq_of_mem_ancestry_of_mem htype hcandidate hcandidateName
      obtain rfl : candidate = m.owner := h.eq_of_mem_ancestry hcandidate hcandidateName
      obtain rfl : found = m := DeclaredMethod.eq_of_owner_of_key howner hkey
      exact ⟨rfl, rfl, hdeclares, hunstated, hfind⟩
    · cases hfits

/-- Its type maps a member with a contract to the method exactly if the type lists the interface of
the kind and the method is its own choice. -/
theorem implements_iff (h : Hides u m) :
    (∃ signature, Mapping.Implements u kind m signature) ↔ Reimplements u kind m := by
  constructor
  · rintro ⟨signature, interface, -, member, hmember, rfl, hcontract, hmapped⟩
    -- The type that maps the member to the method is its own: no other one leads back to it.
    obtain ⟨found, hfound, hkey⟩ := (Option.any_eq_true ..).1 hmapped
    obtain ⟨type, htype, hown⟩ := List.exists_of_findSome?_eq_some hfound
    obtain ⟨-, -, hdeclares, hunstated, hfits⟩ := h.eq_of_own? htype hown (of_decide_eq_true hkey)
    rw [Mapping.declaringType_of_mem_members hmember] at hdeclares
    refine ⟨interface, PluginKind.interfaceName_of_contract? hcontract, hdeclares, member, hmember,
      ?_, hunstated, hfits⟩
    rwa [← PluginKind.signature_eq_of_contract? hcontract]
  · rintro ⟨interface, hinterface, hdeclares, member, hmember, hcontract, hunstated, hfits⟩
    obtain ⟨above, habove⟩ :=
      Universe.exists_ancestryIn_eq_cons (u.without m.owner.fullName) m.owner
    rw [← Universe.ancestry] at habove
    have hself : m.owner ∈ u.ancestry m.owner := by simp [habove]
    have hown : Mapping.own? u member m.owner = some m := by
      rw [Mapping.own?, hunstated, Option.none_or, Mapping.declaringType_of_mem_members hmember,
        if_pos hdeclares, habove, List.findSome?_cons, hfits]
    have hmapped : Mapping.implementation? u member m.owner = some m := by
      rw [Mapping.implementation?, habove, List.findSome?_cons, hown]
    refine ⟨_, interface, Universe.mem_allInterfaces_iff.2 ⟨_, hself, hdeclares⟩, member, hmember,
      rfl, ?_, by simp [hmapped]⟩
    rwa [hinterface, ← PluginKind.signature]

end Hides

namespace ImplementedMember

variable {u : Universe} {kind : PluginKind} {m : DeclaredMethod}

/-- A method that hides what it has the signature of overrides nothing. It is reported exactly if
it is the user's and its type implements a member of the kind's interface anew by it, and so not at
all where the type does not list an interface with that name. -/
theorem reported_iff_reimplements (h : Hides u m) :
    Overrides.chain u m = [m] ∧
      (ofMethod? u kind m ≠ none ↔
        u.isUser m.owner.fullName = true ∧ Reimplements u kind m) ∧
      ((∀ interface, simpleName interface = kind.interfaceName →
          u.declaresInterface m.owner interface = false) →
        ofMethod? u kind m = none) := by
  -- By its name alone a method stands for a member only if it overrides one.
  have hbyName : Mapping.signatureByName? u kind m = none := by
    rw [Option.eq_none_iff_forall_ne_some]
    intro signature hsignature
    have hoverride := (Mapping.signatureByName?_eq_some_iff.1 hsignature).1.1
    rw [h.not_isOverride] at hoverride
    cases hoverride
  have hreported : ofMethod? u kind m ≠ none ↔
      u.isUser m.owner.fullName = true ∧ Reimplements u kind m := by
    rw [ofMethod?, Ne, Option.map_eq_none_iff, Mapping.resolve?, h.chain_eq, hbyName,
      List.findSome?_singleton, Option.or_none, ← h.implements_iff]
    by_cases huser : u.isUser m.owner.fullName = true
    · rw [if_pos huser]
      constructor
      · intro hne
        obtain ⟨signature, hsignature⟩ := Option.ne_none_iff_exists'.1 hne
        exact ⟨huser, signature, Mapping.implements_of_signature? hsignature⟩
      · rintro ⟨-, signature, himplements⟩
        exact Mapping.signature?_ne_none himplements
    · simp [huser]
  refine ⟨h.chain_eq, hreported, fun hunlisted => ?_⟩
  by_contra hne
  obtain ⟨-, interface, hinterface, hdeclares, -⟩ := hreported.1 hne
  rw [hunlisted interface hinterface] at hdeclares
  cases hdeclares

/-- A method with the signature of one that implements a member, in a type derived from the other
one's, which lists some interfaces. -/
def hidingMethod (interfaces : List String) : DeclaredMethod :=
  ⟨userClass "Fs" "Base" interfaces [newMethod "MkDir" []], ⟨0, Nat.zero_lt_one⟩⟩

/-- The method that implements the member. -/
def hiddenMethod : DeclaredMethod := ⟨implementing, ⟨0, Nat.zero_lt_one⟩⟩

/-- The method and the one that it hides. -/
def hidingTypes (interfaces : List String) : Universe :=
  userTypes [implementing, (hidingMethod interfaces).owner]

theorem hides_hidingMethod (interfaces : List String) :
    Hides (hidingTypes interfaces) (hidingMethod interfaces) where
  newslot := rfl
  unstated := rfl
  apart base hbase := by
    have himplementing :
        (hidingTypes interfaces).baseOf? (hidingMethod interfaces).owner = some implementing := rfl
    obtain rfl := Option.some.inj (himplementing.symm.trans hbase)
    have hancestry : (hidingTypes interfaces).ancestry implementing = [implementing] :=
      Universe.ancestryIn_of_none rfl
    intro type htype
    rw [hancestry] at htype
    rw [List.mem_singleton.1 htype]
    exact show "Base" ≠ "Fs" by decide

/-- A method that hides the one by which its base type implements a member is not reported, unless
its type lists the interface again. -/
theorem reported_iff_reimplements_hidingMethod :
    Hides (hidingTypes []) (hidingMethod []) ∧
      ofMethod? (hidingTypes []) .fileSystem hiddenMethod =
        some ⟨"IFsPlugin.MkDir", "Base"⟩ ∧
      ofMethod? (hidingTypes []) .fileSystem (hidingMethod []) = none ∧
      ofMethod? (hidingTypes ["IFsPlugin"]) .fileSystem (hidingMethod ["IFsPlugin"]) ≠ none := by
  have hnone := (@reported_iff_reimplements _ .fileSystem _ (hides_hidingMethod [])).2.2
  have hsome := (@reported_iff_reimplements _ .fileSystem _ (hides_hidingMethod ["IFsPlugin"])).2.1
  refine ⟨hides_hidingMethod [], by decide +kernel, hnone fun interface _ => ?_, hsome.2 ⟨rfl, ?_⟩⟩
  · simp [Universe.declaresInterface, Universe.interfacesFrom, hidingMethod, userClass]
  · exact ⟨"IFsPlugin", by decide, by decide +kernel, fsMember "MkDir", by decide +kernel,
      by decide, by decide, by decide⟩

end ImplementedMember

end PluginBuild
