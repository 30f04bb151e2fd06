import Mathlib.Data.List.Perm.Subperm
import PluginBuild.Proofs.Plugin.WithoutReferences
import PluginBuild.Proofs.Walk
/-!
# Chains of overrides that may go in circles

A method can state to override one of any class, so that overrides may lead back to a method. The
chain of a method is a walk all the same (`walk_chain`). It has every method that overrides lead to,
and the member found along it is that of the first of them that has one (`chain_reached`).
-/

namespace PluginBuild

open Metadata

namespace Overrides

variable {u : Universe} {m next : DeclaredMethod}

/-- The method that a method overrides belongs to a type in sight. -/
theorem get?_owner_of_next? (hm : u.get? m.owner.fullName = some m.owner)
    (h : next? u m = some next) : u.get? next.owner.fullName = some next.owner := by
  rcases Option.or_eq_some_iff.1 h with hstated | ⟨-, hinherited⟩
  · obtain ⟨target, -, htarget⟩ := List.exists_of_findSome?_eq_some hstated
    split at htarget
    · cases htarget
    · next owner howner =>
      split at htarget
      · cases htarget
      · obtain ⟨rfl, -⟩ := DeclaredMethod.of_find? htarget
        rwa [Universe.fullName_of_get? howner]
  · exact Universe.get?_of_mem_ancestry hm (of_inherited? hinherited).2.1

/-- The keys of all methods in sight include that of a method of a type in sight. -/
theorem key_mem_keys (hm : u.get? m.owner.fullName = some m.owner) : m.key ∈ keys u := by
  obtain ⟨owner, index⟩ := m
  obtain ⟨entry, hfind, rfl⟩ := Option.map_eq_some_iff.1 hm
  refine List.mem_flatMap.2 ⟨entry, List.mem_of_find?_eq_some hfind, List.mem_map.2 ⟨_, ?_, rfl⟩⟩
  exact List.mem_map_of_mem (List.mem_finRange index)

/-- The keys in `unseen` are those of the methods in sight that have not been met. -/
def Unmet (u : Universe) (met : List DeclaredMethod) (unseen : List (String × Nat)) : Prop :=
  ∀ key, key ∈ unseen ↔ key ∈ keys u ∧ key ∉ met.map DeclaredMethod.key

theorem unmet_keys (u : Universe) : Unmet u [] (keys u) := fun _ => by simp

/-- One more method has been met. -/
theorem Unmet.cons {met : List DeclaredMethod} {unseen : List (String × Nat)}
    (h : Unmet u met unseen) (m : DeclaredMethod) :
    Unmet u (m :: met) (without unseen m.key) := by
  intro key
  rw [without, List.mem_filter, h key, List.map_cons, List.mem_cons, decide_eq_true_iff, not_or,
    and_assoc, and_comm (a := key ∉ _)]

/-- A method and those it overrides are a walk from override to override. -/
theorem walk_chainIn {met : List DeclaredMethod} {unseen : List (String × Nat)}
    (hunmet : Unmet u met unseen)
    (hmet : ∀ other ∈ met, u.get? other.owner.fullName = some other.owner)
    (hm : u.get? m.owner.fullName = some m.owner) :
    Walk (next? u) met m (chainIn u unseen m) := by
  fun_induction chainIn u unseen m generalizing met with
  | case1 unseen m hnone => exact .last fun after hafter => by cases hnone.symm.trans hafter
  | case2 unseen m next hnext hunseen ih =>
    have hsight := get?_owner_of_next? hm hnext
    refine .step hnext (fun hmem => ?_)
      (ih (hunmet.cons next) (List.forall_mem_cons.2 ⟨hsight, hmet⟩) hsight)
    exact ((hunmet next.key).1 hunseen).2 (List.mem_map_of_mem hmem)
  | case3 unseen m next hnext hseen =>
    refine .last fun after hafter => ?_
    cases hnext.symm.trans hafter
    -- The key is that of a method in sight, so that a method with it must have been met.
    have hsight := get?_owner_of_next? hm hnext
    have hkey : next.key ∈ met.map DeclaredMethod.key := by
      by_contra hnew
      exact hseen ((hunmet next.key).2 ⟨key_mem_keys hsight, hnew⟩)
    obtain ⟨other, hother, hsame⟩ := List.mem_map.1 hkey
    rwa [← DeclaredMethod.eq_of_key (hmet other hother) hsight hsame]

/-- The chain of a method of a type in sight is a walk that has met the method. -/
theorem walk_chain (hm : u.get? m.owner.fullName = some m.owner) :
    Walk (next? u) [m] m (chain u m) :=
  walk_chainIn ((unmet_keys u).cons m) (by simpa using hm) hm

/-- The methods of a chain belong to types in sight. -/
theorem get?_owner_of_mem_chain (hm : u.get? m.owner.fullName = some m.owner)
    {link : DeclaredMethod} (h : link ∈ chain u m) :
    u.get? link.owner.fullName = some link.owner :=
  (walk_chain hm).of_mem (fun _ _ hsight hnext => get?_owner_of_next? hsight hnext) hm h

/-- No two methods of a chain have one key. -/
theorem nodup_map_key_chain (hm : u.get? m.owner.fullName = some m.owner) :
    ((chain u m).map DeclaredMethod.key).Nodup :=
  ((walk_chain hm).nodup List.mem_cons_self).map_on fun _ ha _ hb hkey =>
    DeclaredMethod.eq_of_key (get?_owner_of_mem_chain hm ha) (get?_owner_of_mem_chain hm hb) hkey

/-- A chain has no more methods than there are in sight. -/
theorem length_chain_le (hm : u.get? m.owner.fullName = some m.owner) :
    (chain u m).length ≤ (keys u).length := by
  have hsubset : (chain u m).map DeclaredMethod.key ⊆ keys u := by
    intro key hkey
    obtain ⟨link, hlink, rfl⟩ := List.mem_map.1 hkey
    exact key_mem_keys (get?_owner_of_mem_chain hm hlink)
  simpa using (List.subperm_of_subset (nodup_map_key_chain hm) hsubset).length_le

/-- The signature of the member found at the least number of overrides from a method at which there
is one. -/
def FirstSignature (u : Universe) (kind : PluginKind) (m : DeclaredMethod) (signature : String) :
    Prop :=
  ∃ n link, iterate? (next? u) n m = some link ∧ Mapping.signature? u kind link = some signature ∧
    ∀ k < n, ∀ before, iterate? (next? u) k m = some before →
      Mapping.signature? u kind before = none

/-- The chain of a method of a type in sight starts with the method, goes on from override to
override, and has each method that any number of overrides leads to, once. A member is found along
it if one is found at any of these methods, and then it is that of the first of them. -/
theorem chain_reached (hm : u.get? m.owner.fullName = some m.owner) :
    ((chain u m).map DeclaredMethod.key).Nodup ∧ (chain u m).length ≤ (keys u).length ∧
    (chain u m).head? = some m ∧ ((chain u m).IsChain fun a b => next? u a = some b) ∧
    (∀ link, link ∈ chain u m ↔ ∃ n, iterate? (next? u) n m = some link) ∧
    ∀ kind,
      (((chain u m).findSome? (Mapping.signature? u kind)).isSome = true ↔
        ∃ n link, iterate? (next? u) n m = some link ∧
          (Mapping.signature? u kind link).isSome = true) ∧
      ∀ signature,
        ((chain u m).findSome? (Mapping.signature? u kind) = some signature ↔
          FirstSignature u kind m signature) ∧
        (FirstSignature u kind m signature → u.isUser m.owner.fullName = true →
          Mapping.resolve? u kind m = some signature) := by
  have hwalk := walk_chain hm
  have hmet : ∀ other ∈ [m], other = m := by simp
  refine ⟨nodup_map_key_chain hm, length_chain_le hm, hwalk.head?_eq, hwalk.isChain,
    fun link => hwalk.mem_iff hmet, fun kind => ⟨hwalk.isSome_findSome?_iff hmet, ?_⟩⟩
  intro signature
  have hfirst := hwalk.findSome?_eq_some_iff (f := Mapping.signature? u kind) hmet (b := signature)
  refine ⟨hfirst, fun h huser => ?_⟩
  rw [Mapping.resolve?, if_pos huser, hfirst.2 h, Option.some_or]

/-- The method with which a class of the user starts, which states that it overrides another. -/
def overridingMethod (className name : String) (interfaces : List String) (overridden : MemberRef) :
    DeclaredMethod :=
  ⟨ImplementedMember.userClass className "Object" interfaces
    [ImplementedMember.newMethod name [overridden]], ⟨0, Nat.zero_lt_one⟩⟩

/-- A method that overrides one of two that override each other. -/
def firstMethod : DeclaredMethod := overridingMethod "First" "Make" [] ⟨"Second", "Make", none⟩

/-- A method that is overridden by the method it overrides. -/
def secondMethod : DeclaredMethod := overridingMethod "Second" "Make" [] ⟨"Third", "MkDir", none⟩

/-- A method that implements a member and is overridden by the method it overrides. -/
def thirdMethod : DeclaredMethod :=
  overridingMethod "Third" "MkDir" ["IFsPlugin"] ⟨"Second", "Make", none⟩

/-- The classes of the three methods. -/
def circling : Universe :=
  ImplementedMember.userTypes [firstMethod.owner, secondMethod.owner, thirdMethod.owner]

/-- The chain of a method that leads into a circle has the methods of the circle, and finds the
member that the last of them implements. -/
theorem chain_reached_circling :
    circling.get? firstMethod.owner.fullName = some firstMethod.owner ∧
      (∀ link, (∃ n, iterate? (next? circling) n firstMethod = some link) ↔
        link = firstMethod ∨ link = secondMethod ∨ link = thirdMethod) ∧
      FirstSignature circling .fileSystem firstMethod "IFsPlugin.MkDir" ∧
      Mapping.resolve? circling .fileSystem firstMethod = some "IFsPlugin.MkDir" := by
  have hsight : circling.get? firstMethod.owner.fullName = some firstMethod.owner := by
    decide +kernel
  have hchain : chain circling firstMethod = [firstMethod, secondMethod, thirdMethod] := by
    decide +kernel
  obtain ⟨-, -, -, -, hlinks, hkinds⟩ := chain_reached hsight
  obtain ⟨hfirst, hresolve⟩ := (hkinds .fileSystem).2 "IFsPlugin.MkDir"
  have hfound := hfirst.1 (by rw [hchain]; decide +kernel)
  refine ⟨hsight, fun link => ?_, hfound, hresolve hfound (by decide +kernel)⟩
  rw [← hlinks link, hchain]
  simp

end Overrides

end PluginBuild
