import Mathlib.Data.Option.Basic
import PluginBuild.Plugin.Implemented
import PluginBuild.Proofs.Metadata.Universe
/-!
# Members without attributes

The walks over a hierarchy do not look at the attributes of types, nor at how the types in sight are
listed: where one universe shows the types of another without their attributes (`Shows`), every walk
in it is the one in the other, without the attributes of the types it meets. So what a plugin
implements does not depend on them either: one universe that mirrors another has the same
implemented members (`ImplementedMember.ofDeclaration_eq`).
-/

namespace PluginBuild.Metadata

/-- A type without its attributes. -/
def TypeDef.bare (type : TypeDef) : TypeDef := { type with attributes := [] }

/-- An entry of a universe without the attributes of its type. -/
def LoadedType.bare (entry : LoadedType) : LoadedType := { entry with type := entry.type.bare }

namespace Universe

variable {u w : Universe} {name : String} {type base : TypeDef}

/-- The universe without the attributes of its types. -/
def bare (u : Universe) : Universe := ⟨u.types.map LoadedType.bare⟩

/-- The one universe has the types of the other in sight, without their attributes. -/
def Shows (w u : Universe) : Prop := ∀ name, w.get? name = (u.get? name).map TypeDef.bare

theorem find?_bare (u : Universe) (name : String) :
    u.bare.find? name = (u.find? name).map LoadedType.bare := by
  rw [find?, find?, bare, List.find?_map]
  rfl

/-- A universe without the attributes of its types shows the types it has with them. -/
theorem shows_bare (u : Universe) : u.bare.Shows u := by
  intro name
  rw [get?, find?_bare, get?, Option.map_map, Option.map_map]
  rfl

namespace Shows

theorem without (h : w.Shows u) (name : String) : (w.without name).Shows (u.without name) := by
  intro other
  rw [get?_without, get?_without, h]
  by_cases hname : other = name
  · rw [if_pos hname, if_pos hname, Option.map_none]
  · rw [if_neg hname, if_neg hname]

theorem get?_eq_some (h : w.Shows u) (hget : u.get? name = some type) :
    w.get? name = some type.bare := by
  rw [h, hget, Option.map_some]

theorem get?_eq_none (h : w.Shows u) (hget : u.get? name = none) : w.get? name = none := by
  rw [h, hget, Option.map_none]

theorem ancestryIn_bare (h : w.Shows u) (type : TypeDef) :
    ancestryIn w type.bare = (ancestryIn u type).map TypeDef.bare := by
  -- Each step leaves the types of one name out of both universes; `Shows` holds of what is left.
  fun_induction ancestryIn u type generalizing w with
  | case1 u type hnone =>
    have hbare : w.baseOf? type.bare = none := by
      rw [baseOf?, TypeDef.bare, hnone, Option.bind_none]
    exact ancestryIn_of_none hbare
  | case2 u type name hname hget =>
    have hbare : w.baseOf? type.bare = none := by
      rw [baseOf?, TypeDef.bare, hname, Option.bind_some, h.get?_eq_none hget]
    exact ancestryIn_of_none hbare
  | case3 u type name hname base hget ih =>
    have hbare : type.bare.baseType = some name := hname
    rw [ancestryIn_of_get? hbare (h.get?_eq_some hget), ih (h.without name), List.map_cons]

/-- A walk up the base types meets the same types, without their attributes. -/
theorem ancestry_bare (h : w.Shows u) (type : TypeDef) :
    w.ancestry type.bare = (u.ancestry type).map TypeDef.bare :=
  (h.without type.fullName).ancestryIn_bare type

theorem meetsBase_eq (h : w.Shows u) (simple : String) (name : Option String) :
    meetsBase w simple name = meetsBase u simple name := by
  fun_induction meetsBase u simple name generalizing w with
  | case1 => rw [meetsBase]
  | case2 u name hsimple => rw [meetsBase, if_pos hsimple]
  | case3 u name hsimple hget => exact meetsBase_of_none hsimple (h.get?_eq_none hget)
  | case4 u name hsimple base hget ih =>
    rw [meetsBase_of_get? hsimple (h.get?_eq_some hget)]
    exact ih (h.without name)

theorem derivesFrom_bare (h : w.Shows u) (type : TypeDef) (simple : String) :
    w.derivesFrom type.bare simple = u.derivesFrom type simple :=
  h.meetsBase_eq simple type.baseType

theorem interfacesFrom_eq (h : w.Shows u) (found pending : List String) :
    interfacesFrom w found pending = interfacesFrom u found pending := by
  fun_induction interfacesFrom u found pending generalizing w with
  | case1 => rw [interfacesFrom]
  | case2 u found name rest hfound ih => rw [interfacesFrom, if_pos hfound, ih h]
  | case3 u found name rest hfound hget ih =>
    rw [interfacesFrom_of_none hfound (h.get?_eq_none hget), ih h]
  | case4 u found name rest hfound type hget ih =>
    rw [interfacesFrom_of_get? hfound (h.get?_eq_some hget)]
    exact ih (h.without name)

/-- A type implements the same interfaces. -/
theorem allInterfaces_bare (h : w.Shows u) (type : TypeDef) :
    w.allInterfaces type.bare = u.allInterfaces type := by
  rw [allInterfaces, allInterfaces, h.interfacesFrom_eq, h.ancestry_bare, List.flatMap_map]
  rfl

/-- A type lists the same interfaces, itself or through others. -/
theorem declaresInterface_bare (h : w.Shows u) (type : TypeDef) (name : String) :
    w.declaresInterface type.bare name = u.declaresInterface type name := by
  rw [declaresInterface, declaresInterface, h.interfacesFrom_eq]
  rfl

end Shows

end Universe

end PluginBuild.Metadata

namespace PluginBuild

open Metadata

/-- The one universe has the types and methods of the other, and the same types of the user, but
none of the attributes of types. -/
structure Metadata.Universe.Mirrors (w u : Universe) : Prop where
  shows : w.Shows u
  isUser_eq : ∀ name, w.isUser name = u.isUser name
  mem_keys_iff : ∀ key, key ∈ Overrides.keys w ↔ key ∈ Overrides.keys u

namespace DeclaredMethod

/-- The method of a type as one of the type without its attributes. -/
def bare (m : DeclaredMethod) : DeclaredMethod := ⟨m.owner.bare, m.index⟩

@[simp]
theorem method_bare (m : DeclaredMethod) : m.bare.method = m.method := rfl

@[simp]
theorem key_bare (m : DeclaredMethod) : m.bare.key = m.key := rfl

@[simp]
theorem fullName_bare (m : DeclaredMethod) : m.bare.owner.fullName = m.owner.fullName := rfl

theorem find?_bare (owner : TypeDef) (condition : Method → Bool) :
    find? owner.bare condition = (find? owner condition).map bare := by
  rw [find?, find?, Option.map_map]
  rfl

theorem ofType_bare (owner : TypeDef) : ofType owner.bare = (ofType owner).map bare := by
  rw [ofType, ofType, List.map_map]
  rfl

end DeclaredMethod

open DeclaredMethod (find?_bare ofType_bare)

variable {u w : Universe} {kind : PluginKind}

/-- A universe is mirrored by its types without attributes, in every order in which the same ones
are in sight. -/
theorem Metadata.Universe.Mirrors.of_perm
    (hperm : w.types.Perm u.bare.types)
    (hfind : ∀ name, w.find? name = u.bare.find? name) : w.Mirrors u where
  shows name := by
    rw [Universe.get?, hfind, ← Universe.get?, u.shows_bare name]
  isUser_eq name := by
    rw [Universe.isUser, Universe.isUser, hfind, Universe.find?_bare, Option.any_map]
    rfl
  mem_keys_iff key := by
    have hkeys : Overrides.keys u.bare = Overrides.keys u := by
      rw [Overrides.keys, Overrides.keys, Universe.bare, List.flatMap_map]
      congr 1
      funext entry
      rw [LoadedType.bare, ofType_bare, List.map_map]
      rfl
    rw [← hkeys]
    exact (hperm.flatMap_right _).mem_iff

namespace Overrides

theorem stated?_bare (h : w.Shows u) (m : DeclaredMethod) :
    stated? w m.bare = (stated? u m).map DeclaredMethod.bare := by
  rw [stated?, stated?, List.map_findSome?, DeclaredMethod.method_bare]
  congr 1
  funext target
  rw [Function.comp_apply, h]
  cases u.get? target.declaringType with
  | none => rfl
  | some owner =>
    simp only [Option.map_some, find?_bare]
    by_cases hkind : owner.kind = .interface
    · rw [if_pos hkind, if_pos (show owner.bare.kind = .interface from hkind), Option.map_none]
    · rw [if_neg hkind, if_neg (show ¬owner.bare.kind = .interface from hkind)]

theorem inherited?_bare (h : w.Shows u) (m : DeclaredMethod) :
    inherited? w m.bare = (inherited? u m).map DeclaredMethod.bare := by
  rw [inherited?, inherited?, DeclaredMethod.method_bare]
  by_cases hoverride : m.method.isOverride = true
  · rw [if_pos hoverride, if_pos hoverride, DeclaredMethod.bare, h.ancestry_bare, ← List.map_drop,
      List.findSome?_map, List.map_findSome?]
    congr 1
    funext base
    exact find?_bare base _
  · rw [if_neg hoverride, if_neg hoverride, Option.map_none]

theorem next?_bare (h : w.Shows u) (m : DeclaredMethod) :
    next? w m.bare = (next? u m).map DeclaredMethod.bare := by
  rw [next?, next?, stated?_bare h, inherited?_bare h, Option.map_or]

theorem mem_without {key other : String × Nat} {keys : List (String × Nat)} :
    other ∈ without keys key ↔ other ∈ keys ∧ other ≠ key := by
  simp [without]

theorem chainIn_of_none {unseen : List (String × Nat)} {m : DeclaredMethod}
    (h : next? u m = none) : chainIn u unseen m = [m] := by
  rw [chainIn]
  split
  · rfl
  · next next hnext =>
    rw [h] at hnext
    cases hnext

theorem chainIn_of_some {unseen : List (String × Nat)} {m next : DeclaredMethod}
    (h : next? u m = some next) :
    chainIn u unseen m =
      if next.key ∈ unseen then m :: chainIn u (without unseen next.key) next else [m] := by
  rw [chainIn]
  split
  · next hnone =>
    rw [h] at hnone
    cases hnone
  · next other hother =>
    obtain rfl := Option.some.inj (h.symm.trans hother)
    rfl

theorem chainIn_bare (h : w.Shows u) {unseen others : List (String × Nat)}
    (hsame : ∀ key, key ∈ others ↔ key ∈ unseen) (m : DeclaredMethod) :
    chainIn w others m.bare = (chainIn u unseen m).map DeclaredMethod.bare := by
  fun_induction chainIn u unseen m generalizing others with
  | case1 unseen m hnone =>
    have hbare : next? w m.bare = none := by rw [next?_bare h, hnone, Option.map_none]
    rw [chainIn_of_none hbare, List.map_singleton]
  | case2 unseen m next hnext hunseen ih =>
    have hbare : next? w m.bare = some next.bare := by rw [next?_bare h, hnext, Option.map_some]
    have hrest : ∀ key, key ∈ without others next.key ↔ key ∈ without unseen next.key := by
      intro key
      rw [mem_without, mem_without, hsame]
    rw [chainIn_of_some hbare, DeclaredMethod.key_bare, if_pos ((hsame _).2 hunseen), ih hrest,
      List.map_cons]
  | case3 unseen m next hnext hunseen =>
    have hbare : next? w m.bare = some next.bare := by rw [next?_bare h, hnext, Option.map_some]
    rw [chainIn_of_some hbare, DeclaredMethod.key_bare,
      if_neg fun hmem => hunseen ((hsame _).1 hmem), List.map_singleton]

/-- A method overrides the same methods. -/
theorem chain_bare (h : w.Mirrors u) (m : DeclaredMethod) :
    chain w m.bare = (chain u m).map DeclaredMethod.bare := by
  refine chainIn_bare h.shows (fun key => ?_) m
  rw [mem_without, mem_without, h.mem_keys_iff, DeclaredMethod.key_bare]

end Overrides

namespace Mapping

theorem own?_bare (h : w.Shows u) (member : MemberRef) (type : TypeDef) :
    own? w member type.bare = (own? u member type).map DeclaredMethod.bare := by
  rw [own?, own?, Option.map_or, find?_bare, h.declaresInterface_bare]
  congr 1
  by_cases hdeclares : u.declaresInterface type member.declaringType = true
  · rw [if_pos hdeclares, if_pos hdeclares, h.ancestry_bare, List.findSome?_map,
      List.map_findSome?]
    congr 1
    funext candidate
    exact find?_bare candidate _
  · rw [if_neg hdeclares, if_neg hdeclares, Option.map_none]

theorem implementation?_bare (h : w.Shows u) (member : MemberRef) (type : TypeDef) :
    implementation? w member type.bare =
      (implementation? u member type).map DeclaredMethod.bare := by
  rw [implementation?, implementation?, h.ancestry_bare, List.findSome?_map, List.map_findSome?]
  congr 1
  funext candidate
  exact own?_bare h member candidate

theorem members_eq (h : w.Shows u) (kind : PluginKind) (interface : String) :
    members w kind interface = members u kind interface := by
  rw [members, members, h]
  cases u.get? interface <;> rfl

theorem signature?_bare (h : w.Shows u) (kind : PluginKind) (m : DeclaredMethod) :
    signature? w kind m.bare = signature? u kind m := by
  have hmapped : ∀ member, (implementation? w member m.bare.owner).any (·.key = m.bare.key) =
      (implementation? u member m.owner).any (·.key = m.key) := by
    intro member
    rw [DeclaredMethod.bare, implementation?_bare h, Option.any_map]
    rfl
  rw [signature?, signature?]
  simp only [hmapped, members_eq h]
  rw [DeclaredMethod.bare, h.allInterfaces_bare]

theorem signatureByName?_bare (h : w.Shows u) (kind : PluginKind) (m : DeclaredMethod) :
    signatureByName? w kind m.bare = signatureByName? u kind m := by
  have hroot : (w.ancestry m.bare.owner).getLast? =
      ((u.ancestry m.owner).getLast?).map TypeDef.bare := by
    rw [DeclaredMethod.bare, h.ancestry_bare, List.getLast?_map]
  have hsight : ∀ base, (w.get? base).isNone = (u.get? base).isNone := by
    intro base
    rw [h, Option.isNone_map]
  rw [signatureByName?, signatureByName?]
  simp only [hroot, hsight, DeclaredMethod.method_bare]
  cases (u.ancestry m.owner).getLast? <;> rfl

/-- A method implements the same member. -/
theorem resolve?_bare (h : w.Mirrors u) (kind : PluginKind) (m : DeclaredMethod) :
    resolve? w kind m.bare = resolve? u kind m := by
  rw [resolve?, resolve?, DeclaredMethod.fullName_bare, h.isUser_eq, Overrides.chain_bare h,
    List.findSome?_map, signatureByName?_bare h.shows]
  congr 3
  funext link
  exact signature?_bare h.shows kind link

end Mapping

namespace ImplementedMember

theorem candidates_eq (h : w.Mirrors u) (className : String) :
    candidates w className = (candidates u className).map DeclaredMethod.bare := by
  rw [candidates, candidates, h.shows]
  cases u.get? className with
  | none => rfl
  | some type =>
    have huser : (fun base => w.isUser base.fullName) ∘ TypeDef.bare =
        fun base => u.isUser base.fullName := funext fun base => h.isUser_eq base.fullName
    simp only [Option.map_some, h.shows.ancestry_bare, List.takeWhile_map, huser, List.flatMap_map,
      List.map_flatMap]
    congr 1
    funext base
    rw [ofType_bare, List.filter_map]
    rfl

/-- A declared class implements the same members. -/
theorem ofDeclaration_eq (h : w.Mirrors u) (d : Declaration) :
    ofDeclaration w d = ofDeclaration u d := by
  rw [ofDeclaration, ofDeclaration, candidates_eq h, List.filterMap_map]
  congr 2
  funext m
  rw [Function.comp_apply, ofMethod?, ofMethod?, Mapping.resolve?_bare h]
  rfl

end ImplementedMember

end PluginBuild
