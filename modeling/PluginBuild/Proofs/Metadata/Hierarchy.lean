import PluginBuild.Proofs.Metadata.Universe
import PluginBuild.Proofs.Walk
/-!
# Hierarchies that may go in circles

The types above a type are a walk by way of base types (`walk_ancestryIn`), and the names that a
search for a base type compares are those of the base types along such a walk
(`meetsBase_eq_any`). So each walk over a hierarchy finds exactly what can be reached, circles or
not (`hierarchy_reached`).
-/

namespace PluginBuild.Metadata.Universe

variable {u : Universe} {type : TypeDef}

theorem baseOf?_eq_some_iff {base : TypeDef} :
    u.baseOf? type = some base ↔ ∃ name, type.baseType = some name ∧ u.get? name = some base :=
  Option.bind_eq_some_iff

/-- The types in sight in `unseen` are those in sight in `u` but for the ones of the names met. -/
def Unmet (u : Universe) (met : List TypeDef) (unseen : Universe) : Prop :=
  ∀ name, unseen.get? name = if name ∈ met.map TypeDef.fullName then none else u.get? name

theorem unmet_nil (u : Universe) : u.Unmet [] u := fun _ => by simp

/-- One more type has been met. -/
theorem Unmet.cons {unseen : Universe} {met : List TypeDef} (h : u.Unmet met unseen)
    (base : TypeDef) : u.Unmet (base :: met) (unseen.without base.fullName) := by
  intro name
  rw [get?_without, h name, List.map_cons]
  by_cases hname : name = base.fullName <;> simp [hname]

/-- The types above a type are a walk by way of the base types in sight. -/
theorem walk_ancestryIn {unseen : Universe} {met : List TypeDef} (hunmet : u.Unmet met unseen)
    (hmet : ∀ other ∈ met, u.get? other.fullName = some other) (type : TypeDef) :
    Walk u.baseOf? met type (ancestryIn unseen type) := by
  cases hbase : unseen.baseOf? type with
  | none =>
    rw [ancestryIn_of_none hbase]
    refine .last fun base hnext => ?_
    obtain ⟨name, hname, hget⟩ := baseOf?_eq_some_iff.1 hnext
    -- The base type is in sight in `u`, so that it must have been met.
    have hunseen : unseen.get? name = none := by rwa [baseOf?, hname, Option.bind_some] at hbase
    rw [hunmet name] at hunseen
    split at hunseen
    · next hmem =>
      obtain ⟨other, hother, rfl⟩ := List.mem_map.1 hmem
      cases (hmet other hother).symm.trans hget
      exact hother
    · cases hget.symm.trans hunseen
  | some base =>
    obtain ⟨name, hname, hget⟩ := baseOf?_eq_some_iff.1 hbase
    obtain rfl := fullName_of_get? hget
    rw [ancestryIn_of_get? hname hget]
    have hsight := hunmet base.fullName
    rw [hget] at hsight
    split at hsight
    · cases hsight
    · next hnew =>
      refine .step (baseOf?_eq_some_iff.2 ⟨_, hname, hsight.symm⟩)
        (fun hmem => hnew (List.mem_map_of_mem hmem)) ?_
      exact walk_ancestryIn (hunmet.cons base)
        (List.forall_mem_cons.2 ⟨hsight.symm, hmet⟩) base
termination_by unseen.types.length
decreasing_by exact length_without_lt hget

/-- The types above a type in sight are a walk that has met the type. -/
theorem walk_ancestry (htype : u.get? type.fullName = some type) :
    Walk u.baseOf? [type] type (u.ancestry type) :=
  walk_ancestryIn ((unmet_nil u).cons type) (by simpa using htype) type

/-- The walk up from a type in sight has all that the walks up from its types have. -/
theorem ancestry_subset {base other : TypeDef} (hbase : u.get? base.fullName = some base)
    (h : other ∈ u.ancestry base) : u.ancestry other ⊆ u.ancestry base := by
  intro above habove
  have hmet : ∀ a ∈ [base], a = base := by simp
  have hother : Walk u.baseOf? [other] other (u.ancestry other) :=
    walk_ancestry (get?_of_mem_ancestry hbase h)
  obtain ⟨n, hn⟩ := (hother.mem_iff (by simp)).1 habove
  exact (walk_ancestry hbase).mem_of_mem_of_iterate? hmet h hn

/-- The names that a search upwards compares are those of the base types on the walk. -/
theorem meetsBase_eq_any (unseen : Universe) (simple : String) (type : TypeDef) :
    meetsBase unseen simple type.baseType =
      (ancestryIn unseen type).any fun lower =>
        lower.baseType.any (simpleName · = simple) := by
  cases hname : type.baseType with
  | none =>
    rw [ancestryIn_of_none (by rw [baseOf?, hname, Option.bind_none]), meetsBase]
    simp [hname]
  | some name =>
    by_cases hsimple : simpleName name = simple
    · obtain ⟨above, habove⟩ := exists_ancestryIn_eq_cons unseen type
      rw [meetsBase, if_pos hsimple, habove]
      simp [hname, hsimple]
    · cases hget : unseen.get? name with
      | none =>
        rw [meetsBase_of_none hsimple hget,
          ancestryIn_of_none (by rw [baseOf?, hname, Option.bind_some, hget])]
        simp [hname, hsimple]
      | some base =>
        rw [meetsBase_of_get? hsimple hget, ancestryIn_of_get? hname hget,
          meetsBase_eq_any (unseen.without name) simple base]
        simp [hname, hsimple]
termination_by unseen.types.length
decreasing_by exact length_without_lt hget

/-- A type derives from a base type if the name of the latter is met on the way up from it. -/
theorem derivesFrom_iff {simple : String} :
    u.derivesFrom type simple = true ↔
      ∃ n lower, iterate? u.baseOf? n type = some lower ∧
        ∃ name, lower.baseType = some name ∧ simpleName name = simple := by
  -- The type itself has not been met, so that the walk may come to it once more.
  have hwalk := walk_ancestryIn (unmet_nil u) (by simp) type
  rw [derivesFrom, meetsBase_eq_any, List.any_eq_true]
  simp only [hwalk.mem_iff (by simp), Option.any_eq_true, decide_eq_true_iff]
  constructor
  · rintro ⟨lower, ⟨n, hn⟩, name, hname, hsimple⟩
    exact ⟨n, lower, hn, name, hname, hsimple⟩
  · rintro ⟨n, lower, hn, name, hname, hsimple⟩
    exact ⟨lower, ⟨n, hn⟩, name, hname, hsimple⟩

/-- A walk over interfaces finds none twice. -/
theorem nodup_interfacesFrom {unseen : Universe} {found pending : List String} (h : found.Nodup) :
    (interfacesFrom unseen found pending).Nodup := by
  have hnew {found : List String} {name : String} (hfound : found.Nodup) (hname : name ∉ found) :
      (found ++ [name]).Nodup :=
    List.nodup_append_comm.1 (List.nodup_cons.2 ⟨hname, hfound⟩)
  fun_induction interfacesFrom unseen found pending with
  | case1 => exact h
  | case2 _ _ _ _ _ ih => exact ih h
  | case3 _ _ _ _ hname _ ih => exact ih (hnew h hname)
  | case4 _ _ _ _ hname _ _ ih => exact ih (hnew h hname)

/-- The types of a walk upwards are the type and those that steps to base types lead to, each once
and in this order; a type derives from the base types met on the way; it implements what the types
of the walk list or what such an interface leads to, and declares what it does so itself. -/
theorem hierarchy_reached (htype : u.get? type.fullName = some type) :
    (((u.ancestry type).map TypeDef.fullName).Nodup ∧ (u.ancestry type).head? = some type ∧
      ((u.ancestry type).IsChain fun lower base => u.baseOf? lower = some base) ∧
      ∀ base, base ∈ u.ancestry type ↔ ∃ n, iterate? u.baseOf? n type = some base) ∧
    (∀ simple, u.derivesFrom type simple = true ↔
      ∃ n lower, iterate? u.baseOf? n type = some lower ∧
        ∃ name, lower.baseType = some name ∧ simpleName name = simple) ∧
    ((u.allInterfaces type).Nodup ∧ ∀ name, name ∈ u.allInterfaces type ↔
      ∃ base ∈ u.ancestry type, ∃ listed ∈ base.interfaces, u.Leads listed name) ∧
    ∀ name, u.declaresInterface type name = true ↔
      ∃ listed ∈ type.interfaces, u.Leads listed name := by
  have hwalk := walk_ancestry htype
  refine ⟨⟨?_, hwalk.head?_eq, hwalk.isChain, fun base => hwalk.mem_iff (by simp)⟩,
    fun simple => derivesFrom_iff, ⟨nodup_interfacesFrom List.nodup_nil, fun name => ?_⟩,
    fun name => declaresInterface_iff⟩
  · refine (hwalk.nodup List.mem_cons_self).map_on fun a ha b hb hname => ?_
    have hget := get?_of_mem_ancestry htype ha
    rw [hname, get?_of_mem_ancestry htype hb] at hget
    exact (Option.some.inj hget).symm
  · simp only [mem_allInterfaces_iff, declaresInterface_iff]

/-- A type without methods. -/
def plainType (fullName : String) (kind : TypeKind) (baseType : Option String)
    (interfaces : List String) : TypeDef :=
  { fullName, kind, isAbstract := false, baseType, interfaces, methods := [], attributes := [] }

/-- A class whose base type derives from it. -/
def lowerClass : TypeDef := plainType "Lower" .class (some "Upper") []

/-- The base type of the class, which derives from the class and lists an interface. -/
def upperClass : TypeDef := plainType "Upper" .class (some "Lower") ["IFirst"]

/-- Two classes that derive from each other, and two interfaces that list each other and another one
that is not in sight. -/
def circles : Universe :=
  .ofModules ⟨⟨"Sample", none⟩, [], [lowerClass, upperClass,
    plainType "IFirst" .interface none ["ISecond", "IUnknown"],
    plainType "ISecond" .interface none ["IFirst"]]⟩ []

/-- In circles, too, the walks tell what can be reached. -/
theorem hierarchy_reached_circles :
    circles.get? lowerClass.fullName = some lowerClass ∧
      (∀ base, (∃ n, iterate? circles.baseOf? n lowerClass = some base) ↔
        base = lowerClass ∨ base = upperClass) ∧
      (∃ n lower, iterate? circles.baseOf? n lowerClass = some lower ∧
        ∃ name, lower.baseType = some name ∧ simpleName name = "Lower") ∧
      ∀ name, circles.Leads "IFirst" name ↔
        name = "IFirst" ∨ name = "ISecond" ∨ name = "IUnknown" := by
  have hsight : circles.get? lowerClass.fullName = some lowerClass := by decide +kernel
  have hancestry : circles.ancestry lowerClass = [lowerClass, upperClass] := by decide +kernel
  have hinterfaces : circles.allInterfaces lowerClass = ["IFirst", "ISecond", "IUnknown"] := by
    decide +kernel
  obtain ⟨⟨-, -, -, hbases⟩, hderives, ⟨-, hnames⟩, -⟩ := hierarchy_reached hsight
  rw [hancestry] at hbases hnames
  rw [hinterfaces] at hnames
  refine ⟨hsight, fun base => ?_, (hderives "Lower").1 (by decide +kernel), fun name => ?_⟩
  · simpa using (hbases base).symm
  · simpa [lowerClass, upperClass, plainType] using (hnames name).symm

end PluginBuild.Metadata.Universe
