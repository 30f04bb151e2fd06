import Mathlib.Logic.Relation
import PluginBuild.Metadata.Universe
/-!
# What the walks over a hierarchy find

A walk up the base types from a type goes on as a walk from any type on the way would
(`prefix_ancestry_of_append`), and a walk over listed interfaces finds all that can be reached from
where it starts (`mem_interfacesFrom_iff`), whether or not there are circles.
-/

namespace PluginBuild.Metadata.Universe

/-- Every type that the one universe has in sight is the one of its name in the other. -/
def Within (u larger : Universe) : Prop :=
  ∀ name type, u.get? name = some type → larger.get? name = some type

theorem fullName_of_get? {u : Universe} {name : String} {type : TypeDef}
    (h : u.get? name = some type) : type.fullName = name := by
  obtain ⟨entry, hfind, rfl⟩ := Option.map_eq_some_iff.1 h
  simpa using List.find?_some hfind

/-- What holds of all types of a universe holds of a type in sight. -/
theorem of_get? {u : Universe} {p : TypeDef → Prop} (hall : ∀ entry ∈ u.types, p entry.type)
    {name : String} {type : TypeDef} (h : u.get? name = some type) : p type := by
  obtain ⟨entry, hfind, rfl⟩ := Option.map_eq_some_iff.1 h
  exact hall entry (List.mem_of_find?_eq_some hfind)

/-- Without the types of a name, the other ones are in sight as before. -/
theorem get?_without (u : Universe) (name other : String) :
    (u.without name).get? other = if other = name then none else u.get? other := by
  rw [get?, find?, without, List.find?_filter]
  by_cases hname : other = name
  · subst hname
    rw [if_pos rfl, Option.map_eq_none_iff, List.find?_eq_none]
    simp
  · rw [if_neg hname, get?, find?]
    congr 2
    funext entry
    by_cases hentry : entry.type.fullName = other <;> simp [hentry, hname]

namespace Within

variable {u larger : Universe}

theorem refl (u : Universe) : u.Within u := fun _ _ h => h

/-- One universe is within another still if both lose the types of a name. -/
theorem without (h : u.Within larger) (name : String) :
    (u.without name).Within (larger.without name) := by
  intro other type hget
  rw [get?_without] at hget ⊢
  split at hget
  · cases hget
  · next hother => rw [if_neg hother, h other type hget]

theorem without_left (h : u.Within larger) (name : String) : (u.without name).Within larger := by
  intro other type hget
  rw [get?_without] at hget
  split at hget
  · cases hget
  · exact h other type hget

end Within

/-! ### Base types -/

/-- A walk starts with its type and goes on from the base type that is in sight. -/
theorem ancestryIn_of_get? {unseen : Universe} {type base : TypeDef} {name : String}
    (hname : type.baseType = some name) (hbase : unseen.get? name = some base) :
    ancestryIn unseen type = type :: ancestryIn (unseen.without name) base := by
  rw [ancestryIn]
  split
  · next hnone => simp [hnone] at hname
  · next name' hname' =>
    cases hname.symm.trans hname'
    split
    · next hnone => cases hnone.symm.trans hbase
    · next base' hbase' =>
      cases hbase.symm.trans hbase'
      rfl

/-- A walk ends with its type where no base type is in sight. -/
theorem ancestryIn_of_none {unseen : Universe} {type : TypeDef}
    (h : unseen.baseOf? type = none) : ancestryIn unseen type = [type] := by
  rw [ancestryIn]
  split
  · rfl
  · next name hname =>
    split
    · rfl
    · next base hbase =>
      rw [baseOf?, hname, Option.bind_some, hbase] at h
      cases h

/-- A walk is one step after the other, or none. -/
theorem ancestryIn_cases (unseen : Universe) (type : TypeDef) :
    ancestryIn unseen type = [type] ∨ ∃ name base, type.baseType = some name ∧
      unseen.get? name = some base ∧
      ancestryIn unseen type = type :: ancestryIn (unseen.without name) base := by
  cases hbase : unseen.baseOf? type with
  | none => exact .inl (ancestryIn_of_none hbase)
  | some base =>
    obtain ⟨name, hname, hget⟩ := Option.bind_eq_some_iff.1 hbase
    exact .inr ⟨name, base, hname, hget, ancestryIn_of_get? hname hget⟩

theorem exists_ancestryIn_eq_cons (unseen : Universe) (type : TypeDef) :
    ∃ above, ancestryIn unseen type = type :: above := by
  rcases ancestryIn_cases unseen type with hend | ⟨_, _, -, -, hstep⟩
  · exact ⟨_, hend⟩
  · exact ⟨_, hstep⟩

/-- Where more types are in sight, a walk goes on further. -/
theorem Within.startsWith_ancestryIn {unseen larger : Universe} (h : unseen.Within larger)
    (type : TypeDef) : ancestryIn unseen type <+: ancestryIn larger type := by
  rcases ancestryIn_cases unseen type with hend | ⟨name, base, hname, hget, hstep⟩
  · rw [hend]
    rcases ancestryIn_cases larger type with hlarger | ⟨_, _, -, -, hlarger⟩
    · simp [hlarger]
    · rw [hlarger, List.prefix_cons_inj]
      exact List.nil_prefix
  · rw [hstep, ancestryIn_of_get? hname (h name base hget), List.prefix_cons_inj]
    exact (h.without name).startsWith_ancestryIn base
termination_by unseen.types.length
decreasing_by exact length_without_lt hget

/-- The types on a walk are the ones of their names, but for the first. -/
theorem get?_of_mem_ancestryIn {unseen : Universe} {type other : TypeDef}
    (h : other ∈ ancestryIn unseen type) :
    other = type ∨ unseen.get? other.fullName = some other := by
  rcases ancestryIn_cases unseen type with hend | ⟨name, base, -, hget, hstep⟩
  · rw [hend, List.mem_singleton] at h
    exact .inl h
  · rw [hstep] at h
    rcases List.mem_cons.1 h with rfl | h
    · exact .inl rfl
    refine .inr ?_
    rcases get?_of_mem_ancestryIn h with rfl | hother
    · rwa [fullName_of_get? hget]
    · exact (Within.refl unseen).without_left name _ _ hother
termination_by unseen.types.length
decreasing_by exact length_without_lt hget

/-- A walk from a type of the universe `u`, which has not been met before, goes on from each type
as the walk from there does, as far as it goes. -/
theorem prefix_ancestry_of_ancestryIn {u unseen : Universe} {type other : TypeDef}
    {before after : List TypeDef} (hwithin : unseen.Within (u.without type.fullName))
    (h : ancestryIn unseen type = before ++ other :: after) :
    other :: after <+: u.ancestry other := by
  cases before with
  | nil =>
    obtain ⟨above, habove⟩ := exists_ancestryIn_eq_cons unseen type
    obtain rfl : other = type := (List.cons.inj (habove.symm.trans h)).1.symm
    rw [List.nil_append] at h
    rw [← h]
    exact hwithin.startsWith_ancestryIn other
  | cons first before =>
    rcases ancestryIn_cases unseen type with hend | ⟨name, base, -, hget, hstep⟩
    · rw [hend] at h
      simp at h
    · rw [hstep] at h
      refine prefix_ancestry_of_ancestryIn ?_ (List.cons.inj h).2
      have hu : unseen.Within u := fun n t ht => (Within.refl u).without_left _ n t (hwithin n t ht)
      rw [fullName_of_get? hget]
      exact hu.without name
termination_by unseen.types.length
decreasing_by exact length_without_lt hget

/-- A walk goes on from each type as the walk from there does, as far as it goes. -/
theorem prefix_ancestry_of_append {u : Universe} {type other : TypeDef}
    {before after : List TypeDef} (h : u.ancestry type = before ++ other :: after) :
    other :: after <+: u.ancestry other :=
  prefix_ancestry_of_ancestryIn (Within.refl _) h

/-- Behind a type, the walk up from it goes as the one up from its base type does, as far as it
goes. -/
theorem ancestry_cases (u : Universe) (type : TypeDef) :
    u.ancestry type = [type] ∨ ∃ base above, u.baseOf? type = some base ∧
      u.ancestry type = type :: above ∧ above <+: u.ancestry base := by
  have hwithin : (u.without type.fullName).Within u := (Within.refl u).without_left _
  rcases ancestryIn_cases (u.without type.fullName) type with hend | ⟨name, base, hname, hget, hstep⟩
  · exact .inl hend
  · have hbase : u.baseOf? type = some base :=
      Option.bind_eq_some_iff.2 ⟨name, hname, hwithin name base hget⟩
    refine .inr ⟨base, _, hbase, hstep, ?_⟩
    rw [ancestry, fullName_of_get? hget]
    exact (hwithin.without name).startsWith_ancestryIn base

theorem mem_ancestry_self (u : Universe) (type : TypeDef) : type ∈ u.ancestry type := by
  rcases u.ancestry_cases type with hend | ⟨base, above, -, hstep, -⟩
  · rw [hend]
    exact List.mem_singleton_self type
  · rw [hstep]
    exact List.mem_cons_self

/-- The types on a walk from a type in sight are in sight. -/
theorem get?_of_mem_ancestry {u : Universe} {name : String} {type other : TypeDef}
    (htype : u.get? name = some type) (h : other ∈ u.ancestry type) :
    u.get? other.fullName = some other := by
  rcases get?_of_mem_ancestryIn h with rfl | hother
  · rwa [fullName_of_get? htype]
  · exact (Within.refl u).without_left _ _ _ hother

theorem meetsBase_of_none {unseen : Universe} {simple name : String}
    (hsimple : simpleName name ≠ simple) (h : unseen.get? name = none) :
    meetsBase unseen simple (some name) = false := by
  rw [meetsBase, if_neg hsimple]
  split
  · rfl
  · next base hbase => cases h.symm.trans hbase

theorem meetsBase_of_get? {unseen : Universe} {simple name : String} {base : TypeDef}
    (hsimple : simpleName name ≠ simple) (h : unseen.get? name = some base) :
    meetsBase unseen simple (some name) =
      meetsBase (unseen.without name) simple base.baseType := by
  rw [meetsBase, if_neg hsimple]
  split
  · next hnone => cases h.symm.trans hnone
  · next base' hbase' =>
    cases h.symm.trans hbase'
    rfl

/-! ### Interfaces -/

/-- An interface that is not in sight is found and leads nowhere. -/
theorem interfacesFrom_of_none {unseen : Universe} {found rest : List String} {name : String}
    (hname : name ∉ found) (h : unseen.get? name = none) :
    interfacesFrom unseen found (name :: rest) = interfacesFrom unseen (found ++ [name]) rest := by
  rw [interfacesFrom, if_neg hname]
  split
  · rfl
  · next type htype => cases h.symm.trans htype

/-- An interface that is in sight is found and leads to those that it lists. -/
theorem interfacesFrom_of_get? {unseen : Universe} {found rest : List String} {name : String}
    {type : TypeDef} (hname : name ∉ found) (h : unseen.get? name = some type) :
    interfacesFrom unseen found (name :: rest) =
      interfacesFrom (unseen.without name) (found ++ [name]) (type.interfaces ++ rest) := by
  rw [interfacesFrom, if_neg hname]
  split
  · next hnone => cases h.symm.trans hnone
  · next type' htype' =>
    cases h.symm.trans htype'
    rfl

/-- The type with the name `a` lists the interface `b`. -/
def Lists (u : Universe) (a b : String) : Prop :=
  ∃ type, u.get? a = some type ∧ b ∈ type.interfaces

/-- The interface `b` is `a`, or listed by an interface that `a` leads to. -/
def Leads (u : Universe) : String → String → Prop := Relation.ReflTransGen u.Lists

/-- The first step of the way to an interface. -/
theorem leads_iff {u : Universe} {a b : String} :
    u.Leads a b ↔ b = a ∨ ∃ next, u.Lists a next ∧ u.Leads next b := by
  rw [Leads, Relation.ReflTransGen.cases_head_iff, eq_comm]

/-- From names that list only themselves and those of `pending`, nothing else can be reached. -/
theorem Leads.mem_or {u : Universe} {found pending : List String} {a b : String}
    (hclosed : ∀ a ∈ found, ∀ b, u.Lists a b → b ∈ found ∨ b ∈ pending) (h : u.Leads a b)
    (ha : a ∈ found) : b ∈ found ∨ ∃ start ∈ pending, u.Leads start b := by
  induction h using Relation.ReflTransGen.head_induction_on with
  | refl => exact .inl ha
  | head hstep hrest ih =>
    rcases hclosed _ ha _ hstep with hfound | hpending
    · exact ih hfound
    · exact .inr ⟨_, hpending, hrest⟩

/-- Names stay closed with another one, if what it lists is to come. -/
theorem lists_append {u : Universe} {found rest more : List String} {first : String}
    (hclosed : ∀ a ∈ found, ∀ b, u.Lists a b → b ∈ found ∨ b ∈ first :: rest)
    (hmore : ∀ b, u.Lists first b → b ∈ more) :
    ∀ a ∈ found ++ [first], ∀ b, u.Lists a b → b ∈ found ++ [first] ∨ b ∈ more ++ rest := by
  intro a ha b hab
  rcases List.mem_append.1 ha with ha | ha
  · rcases hclosed a ha b hab with hb | hb
    · exact .inl (List.mem_append_left _ hb)
    · rcases List.mem_cons.1 hb with rfl | hb
      · simp
      · exact .inr (List.mem_append_right _ hb)
  · rw [List.mem_singleton.1 ha] at hab
    exact .inr (List.mem_append_left _ (hmore b hab))

/-- A walk over interfaces finds what can be reached from where it is to go. What it has found
before leads nowhere else, and it has all other types in sight. -/
theorem mem_interfacesFrom {u unseen : Universe} {found pending : List String} {name : String}
    (hunseen : ∀ other, other ∉ found → unseen.get? other = u.get? other)
    (hclosed : ∀ a ∈ found, ∀ b, u.Lists a b → b ∈ found ∨ b ∈ pending) :
    name ∈ interfacesFrom unseen found pending ↔
      name ∈ found ∨ ∃ start ∈ pending, u.Leads start name := by
  fun_induction interfacesFrom unseen found pending with
  | case1 => simp
  | case2 unseen found first rest hfirst ih =>
    have hrest : ∀ a ∈ found, ∀ b, u.Lists a b → b ∈ found ∨ b ∈ rest := by
      intro a ha b hab
      rcases hclosed a ha b hab with hb | hb
      · exact .inl hb
      · rcases List.mem_cons.1 hb with rfl | hb
        · exact .inl hfirst
        · exact .inr hb
    rw [ih hunseen hrest]
    constructor
    · rintro (h | ⟨start, hstart, h⟩)
      · exact .inl h
      · exact .inr ⟨start, List.mem_cons_of_mem _ hstart, h⟩
    · rintro (h | ⟨start, hstart, h⟩)
      · exact .inl h
      · rcases List.mem_cons.1 hstart with rfl | hstart
        · exact h.mem_or hrest hfirst
        · exact .inr ⟨start, hstart, h⟩
  | case3 unseen found first rest hfirst hnone ih =>
    -- An interface that is not in sight lists none.
    have hlists : ∀ b, ¬ u.Lists first b := by
      rintro b ⟨type, htype, -⟩
      rw [← hunseen first hfirst, hnone] at htype
      cases htype
    have hstill := @lists_append u found rest [] first hclosed fun b hb => absurd hb (hlists b)
    rw [ih (fun other hother => hunseen other (by simp_all)) hstill]
    have hfirst : u.Leads first name ↔ name = first := by
      rw [leads_iff]
      simp [hlists]
    simp only [List.mem_append, List.mem_cons, List.not_mem_nil, or_false, exists_eq_or_imp,
      hfirst, or_assoc]
  | case4 unseen found first rest hfirst type htype ih =>
    have hu : u.get? first = some type := hunseen first hfirst ▸ htype
    have hlists (b : String) : u.Lists first b ↔ b ∈ type.interfaces := by
      simp [Lists, hu]
    rw [ih (fun other hother => ?_) (lists_append hclosed fun b => (hlists b).1)]
    · have hfirst : u.Leads first name ↔
          name = first ∨ ∃ start, start ∈ type.interfaces ∧ u.Leads start name := by
        rw [leads_iff]
        simp only [hlists]
      simp only [List.mem_append, List.mem_cons, List.not_mem_nil, or_false, or_and_right,
        exists_or, exists_eq_left, hfirst, or_assoc]
    · rw [List.mem_append, List.mem_singleton, not_or] at hother
      rw [get?_without, if_neg hother.2, hunseen other hother.1]

/-- A type lists an interface itself or through one that it lists. -/
theorem declaresInterface_iff {u : Universe} {type : TypeDef} {name : String} :
    u.declaresInterface type name ↔ ∃ start ∈ type.interfaces, u.Leads start name := by
  rw [declaresInterface, decide_eq_true_iff,
    mem_interfacesFrom (fun _ _ => rfl) (by simp)]
  simp

/-- A type implements the interfaces that a type on the walk up from it lists, itself or through
others. -/
theorem mem_allInterfaces_iff {u : Universe} {type : TypeDef} {name : String} :
    name ∈ u.allInterfaces type ↔ ∃ base ∈ u.ancestry type, u.declaresInterface base name := by
  rw [allInterfaces, mem_interfacesFrom (fun _ _ => rfl) (by simp)]
  simp only [declaresInterface_iff, List.not_mem_nil, false_or, List.mem_flatMap]
  constructor
  · rintro ⟨start, ⟨base, hbase, hstart⟩, h⟩
    exact ⟨base, hbase, start, hstart, h⟩
  · rintro ⟨base, hbase, start, hstart, h⟩
    exact ⟨start, ⟨base, hbase, hstart⟩, h⟩

end PluginBuild.Metadata.Universe
