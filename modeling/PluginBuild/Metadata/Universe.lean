import PluginBuild.Metadata.Model
/-!
# The types in sight

The types of a user module and of the modules it refers to, and the walks up their hierarchy: the
base types of a type and the interfaces it implements. A walk ends where it would come to a type
again, so hierarchies may go in circles.
-/

namespace PluginBuild.Metadata

/-- Where a type comes from. -/
inductive Origin
  | user
  | reference
deriving DecidableEq

/-- A type and where it comes from. -/
structure LoadedType where
  type : TypeDef
  origin : Origin

/-- The types in sight. Of several types with one name the first one counts. -/
structure Universe where
  types : List LoadedType

namespace Universe

/-- The types of a user module and its references. Types of the user hide those of references, and
of each sort later types hide earlier ones. -/
def ofModules (user : Module) (references : List Module) : Universe :=
  ⟨(user.types.reverse.map (⟨·, .user⟩)) ++
    ((references.flatMap Module.types).reverse.map (⟨·, .reference⟩))⟩

/-- The entry with a name. -/
def find? (u : Universe) (name : String) : Option LoadedType :=
  u.types.find? (·.type.fullName = name)

/-- The type with a name. -/
def get? (u : Universe) (name : String) : Option TypeDef := (u.find? name).map (·.type)

/-- Whether the type with a name comes from the user module. -/
def isUser (u : Universe) (name : String) : Bool := (u.find? name).any (·.origin = .user)

/-- The base type of a type, where it is in sight. -/
def baseOf? (u : Universe) (type : TypeDef) : Option TypeDef := type.baseType.bind u.get?

/-- The universe without the types of a name. -/
def without (u : Universe) (name : String) : Universe :=
  ⟨u.types.filter (·.type.fullName ≠ name)⟩

/-- Without a type that is in sight, fewer types are. -/
theorem length_without_lt {u : Universe} {name : String} {type : TypeDef}
    (h : u.get? name = some type) : (u.without name).types.length < u.types.length := by
  obtain ⟨entry, hfind, -⟩ := Option.map_eq_some_iff.1 h
  have hmem := List.mem_of_find?_eq_some hfind
  have hname := List.find?_some hfind
  refine List.length_filter_lt_length_iff_exists.2 ⟨entry, hmem, ?_⟩
  simpa using hname

/-- A type and its base types, nearest first, as far as the types of `unseen` go. -/
def ancestryIn (unseen : Universe) (type : TypeDef) : List TypeDef :=
  match type.baseType with
  | none => [type]
  | some name =>
    match _h : unseen.get? name with
    | none => [type]
    | some base => type :: ancestryIn (unseen.without name) base
termination_by unseen.types.length
decreasing_by exact length_without_lt _h

/-- A type and its base types, nearest first. -/
def ancestry (u : Universe) (type : TypeDef) : List TypeDef :=
  ancestryIn (u.without type.fullName) type

/-- Whether a simple name is met among `name` and the base types above it, as far as the types of
`unseen` go. -/
def meetsBase (unseen : Universe) (simple : String) (name : Option String) : Bool :=
  match name with
  | none => false
  | some name =>
    if simpleName name = simple then true
    else match _h : unseen.get? name with
      | none => false
      | some base => meetsBase (unseen.without name) simple base.baseType
termination_by unseen.types.length
decreasing_by exact length_without_lt _h

/-- Whether a type has a base type of a simple name, which need not be in sight. -/
def derivesFrom (u : Universe) (type : TypeDef) (simple : String) : Bool :=
  meetsBase u simple type.baseType

/-- The types that are in sight and the interfaces they list, counted together. -/
def size (u : Universe) : Nat :=
  u.types.foldr (fun entry count => entry.type.interfaces.length + 1 + count) 0

/-- The count of a universe with one more type. -/
theorem size_cons (entry : LoadedType) (types : List LoadedType) :
    size ⟨entry :: types⟩ = entry.type.interfaces.length + 1 + size ⟨types⟩ := rfl

/-- Without the types of a name, the count is not larger. -/
theorem size_without_le (u : Universe) (name : String) : (u.without name).size ≤ u.size := by
  obtain ⟨types⟩ := u
  simp only [without]
  induction types with
  | nil => exact Nat.le_refl _
  | cons entry rest ih =>
    rw [List.filter_cons]
    split <;> simp only [size_cons] <;> omega

/-- Without a type that is in sight, the count is smaller by the type and its interfaces. -/
theorem size_without_lt {u : Universe} {name : String} {type : TypeDef}
    (h : u.get? name = some type) : (u.without name).size + type.interfaces.length < u.size := by
  obtain ⟨types⟩ := u
  rw [get?, find?] at h
  simp only [without]
  induction types with
  | nil => cases h
  | cons entry rest ih =>
    rw [List.filter_cons]
    by_cases hname : entry.type.fullName = name
    · have hrest := size_without_le ⟨rest⟩ name
      simp only [without] at hrest
      simp only [List.find?_cons, hname, decide_true, Option.map_some, Option.some.injEq] at h
      subst h
      simp only [hname, ne_eq, not_true_eq_false, decide_false, Bool.false_eq_true, if_false,
        size_cons] at hrest ⊢
      omega
    · simp only [List.find?_cons, hname, decide_false] at h
      have hrest := ih h
      simp only [hname, ne_eq, not_false_eq_true, decide_true, if_true, size_cons] at hrest ⊢
      omega

/-- The interfaces in `found`, then those of `pending` and the ones they list, depth first, as far
as the types of `unseen` go. -/
def interfacesFrom (unseen : Universe) (found pending : List String) : List String :=
  match pending with
  | [] => found
  | name :: rest =>
    if name ∈ found then interfacesFrom unseen found rest
    else match _h : unseen.get? name with
      | none => interfacesFrom unseen (found ++ [name]) rest
      | some type =>
        interfacesFrom (unseen.without name) (found ++ [name]) (type.interfaces ++ rest)
termination_by unseen.size + pending.length
decreasing_by
  · exact Nat.lt_succ_self _
  · exact Nat.lt_succ_self _
  · have hsize := size_without_lt _h
    simp only [List.length_append, List.length_cons]
    omega

/-- The interfaces that a type implements, its base types' and those they list included, in the
order in which they are found. -/
def allInterfaces (u : Universe) (type : TypeDef) : List String :=
  interfacesFrom u [] ((u.ancestry type).flatMap TypeDef.interfaces)

/-- Whether a type lists an interface itself, or lists one that does so. -/
def declaresInterface (u : Universe) (type : TypeDef) (name : String) : Bool :=
  name ∈ interfacesFrom u [] type.interfaces

end Universe

end PluginBuild.Metadata
