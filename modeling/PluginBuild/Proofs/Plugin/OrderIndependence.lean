import PluginBuild.Plugin.Analysis
import PluginBuild.Proofs.Ordered
import PluginBuild.Proofs.Plugin.Bare
/-!
# The order of modules, types and attributes

The analysis of a module finds the same whatever the order of the references, of the types in each
module and of the attributes of modules and types (`Analysis.ofModules_rearranged`), as long as the
types of the user have different names and so have those of the references. Only warnings come in
another order.
-/

namespace PluginBuild

open Metadata

/-! ## Rearranged modules -/

/-- The one list is the other in another order, its elements changed as the relation says. -/
def Reordered {α : Type} (R : α → α → Prop) (xs ys : List α) : Prop :=
  ∃ zs, xs.Perm zs ∧ List.Forall₂ R zs ys

/-- The same type with its attributes in another order. -/
def Metadata.TypeDef.Rearranged (a b : TypeDef) : Prop :=
  b.bare = a.bare ∧ a.attributes.Perm b.attributes

/-- The same module with its attributes, its types and the attributes of its types in another
order. -/
structure Metadata.Module.Rearranged (a b : Module) : Prop where
  assembly : b.assembly = a.assembly
  attributes : a.attributes.Perm b.attributes
  types : Reordered TypeDef.Rearranged a.types b.types

namespace Reordered

variable {α β : Type} {R : α → α → Prop} {xs ys : List α}

theorem perm_flatMap {f : α → List β} (hf : ∀ a b, R a b → (f a).Perm (f b))
    (h : Reordered R xs ys) : (xs.flatMap f).Perm (ys.flatMap f) := by
  obtain ⟨zs, hperm, hall⟩ := h
  refine (hperm.flatMap_right f).trans ?_
  clear hperm
  induction hall with
  | nil => exact .nil
  | cons hab _ ih =>
    rw [List.flatMap_cons, List.flatMap_cons]
    exact (hf _ _ hab).append ih

theorem perm_map {f : α → β} (hf : ∀ a b, R a b → f b = f a) (h : Reordered R xs ys) :
    (xs.map f).Perm (ys.map f) := by
  rw [List.map_eq_flatMap, List.map_eq_flatMap]
  exact h.perm_flatMap fun a b hab => by rw [hf a b hab]

end Reordered

/-- Where elements have different keys, the order does not matter for which one is found. -/
theorem find?_eq_of_perm {α β : Type} [DecidableEq β] (key : α → β) {xs ys : List α}
    (h : xs.Perm ys) (hkeys : (xs.map key).Nodup) (b : β) :
    xs.find? (key · = b) = ys.find? (key · = b) := by
  induction h with
  | nil => rfl
  | cons x _ ih =>
    rw [List.find?_cons, List.find?_cons, ih (List.nodup_cons.1 hkeys).2]
  | swap x y rest =>
    have hne : key y ≠ key x := fun heq => by simp [heq] at hkeys
    by_cases hx : key x = b
    · have hy : key y ≠ b := fun hy => hne (hy.trans hx.symm)
      simp [hx, hy]
    · by_cases hy : key y = b <;> simp [hx, hy]
  | trans h _ ih ih' => rw [ih hkeys, ih' ((h.map key).nodup_iff.1 hkeys)]

/-! ## The types in sight -/

namespace Metadata

variable {module other : Module} {references others : List Module}

/-- The types of a module without their attributes. -/
def Module.bareTypes (module : Module) : List TypeDef := module.types.map TypeDef.bare

/-- The types of the references without their attributes. -/
def bareReferences (references : List Module) : List TypeDef :=
  references.flatMap Module.bareTypes

theorem bareReferences_eq (references : List Module) :
    bareReferences references = (references.flatMap Module.types).map TypeDef.bare :=
  (List.map_flatMap ..).symm

theorem Module.Rearranged.perm_bareTypes (h : module.Rearranged other) :
    module.bareTypes.Perm other.bareTypes :=
  h.types.perm_map fun _ _ hab => hab.1

theorem perm_bareReferences (h : Reordered Module.Rearranged references others) :
    (bareReferences references).Perm (bareReferences others) :=
  h.perm_flatMap fun _ _ hab => hab.perm_bareTypes

/-- The types of a user module have different names, and so have the types of its references. -/
structure DistinctNames (module : Module) (references : List Module) : Prop where
  user : (module.types.map TypeDef.fullName).Nodup
  references : ((references.flatMap Module.types).map TypeDef.fullName).Nodup

theorem DistinctNames.nodup_bareTypes (h : DistinctNames module references) :
    (module.bareTypes.map TypeDef.fullName).Nodup := by
  rw [Module.bareTypes, List.map_map]
  exact h.user

theorem DistinctNames.nodup_bareReferences (h : DistinctNames module references) :
    ((bareReferences references).map TypeDef.fullName).Nodup := by
  rw [bareReferences_eq, List.map_map]
  exact h.references

/-- The type with a name, without its attributes, is the one among the types without theirs. -/
theorem Module.map_bare_findType? (module : Module) (name : String) :
    (module.findType? name).map TypeDef.bare =
      module.bareTypes.find? (·.fullName = name) := by
  rw [bareTypes, List.find?_map]
  rfl

/-- A rearranged module has the same type with a name, but for its attributes. -/
theorem Module.Rearranged.findType?_eq (h : module.Rearranged other)
    (hnames : DistinctNames module references) (name : String) :
    (other.findType? name).map TypeDef.bare = (module.findType? name).map TypeDef.bare := by
  rw [map_bare_findType?, map_bare_findType?,
    find?_eq_of_perm TypeDef.fullName h.perm_bareTypes hnames.nodup_bareTypes]

namespace Universe

/-- Types as the entries of a universe, where the last one of a name counts. -/
def entries (origin : Origin) (types : List TypeDef) : List LoadedType :=
  types.reverse.map (LoadedType.mk · origin)

theorem types_bare (module : Module) (references : List Module) :
    (ofModules module references).bare.types =
      entries .user module.bareTypes ++ entries .reference (bareReferences references) := by
  rw [bareReferences_eq]
  simp only [bare, ofModules, entries, Module.bareTypes, List.map_append, List.map_map,
    ← List.map_reverse]
  rfl

variable {types reordered : List TypeDef}

theorem perm_entries (origin : Origin) (h : types.Perm reordered) :
    (entries origin types).Perm (entries origin reordered) :=
  ((types.reverse_perm.trans h).trans reordered.reverse_perm.symm).map _

theorem find?_entries (origin : Origin) (h : types.Perm reordered)
    (hnames : (types.map TypeDef.fullName).Nodup) (name : String) :
    (entries origin types).find? (·.type.fullName = name) =
      (entries origin reordered).find? (·.type.fullName = name) := by
  refine find?_eq_of_perm (·.type.fullName) (perm_entries origin h) ?_ name
  rw [entries, List.map_map, List.map_reverse, List.nodup_reverse]
  exact hnames

/-- The types in sight are the same in another order. -/
theorem perm_types_bare (hmodule : module.Rearranged other)
    (hreferences : Reordered Module.Rearranged references others) :
    (ofModules module references).bare.types.Perm (ofModules other others).bare.types := by
  rw [types_bare, types_bare]
  exact (perm_entries .user hmodule.perm_bareTypes).append
    (perm_entries .reference (perm_bareReferences hreferences))

/-- The type with a name is the same, and comes from the same sort of module. -/
theorem find?_bare_eq (hnames : DistinctNames module references)
    (hmodule : module.Rearranged other)
    (hreferences : Reordered Module.Rearranged references others) (name : String) :
    (ofModules module references).bare.find? name = (ofModules other others).bare.find? name := by
  rw [find?, find?, types_bare, types_bare, List.find?_append, List.find?_append,
    find?_entries .user hmodule.perm_bareTypes hnames.nodup_bareTypes,
    find?_entries .reference (perm_bareReferences hreferences) hnames.nodup_bareReferences]

/-- One universe mirrors a module with its references and the rearranged ones. -/
theorem exists_mirrors (hnames : DistinctNames module references)
    (hmodule : module.Rearranged other)
    (hreferences : Reordered Module.Rearranged references others) :
    ∃ w : Universe, w.Mirrors (ofModules module references) ∧ w.Mirrors (ofModules other others) :=
  -- The types of the one without attributes are those of the other in another order.
  ⟨(ofModules module references).bare, .of_perm (.refl _) fun _ => rfl,
    .of_perm (perm_types_bare hmodule hreferences) (find?_bare_eq hnames hmodule hreferences)⟩

end Universe

end Metadata

/-! ## Declarations -/

namespace DeclaringAttribute

/-- The attribute as one of its type without the attributes of the type. -/
def bare (d : DeclaringAttribute) : DeclaringAttribute :=
  { d with owner := d.owner.map TypeDef.bare }

theorem text_bare (d : DeclaringAttribute) : d.bare.text = d.text := by
  obtain ⟨custom, _ | owner⟩ := d <;> rfl

theorem kindAndClass_bare (d : DeclaringAttribute) : d.bare.kindAndClass = d.kindAndClass := by
  obtain ⟨⟨typeName, args⟩, owner⟩ := d
  rcases args with _ | ⟨kind, _ | ⟨className, _ | ⟨third, rest⟩⟩⟩ <;> cases owner <;> rfl

theorem classNameOf_bare (arg : Option AttributeArg) (owner : Option TypeDef) :
    classNameOf arg (owner.map TypeDef.bare) = classNameOf arg owner := by
  rcases arg with _ | (_ | _) | _ | _ | _ | _ <;> cases owner <;> rfl

theorem declaration_bare (module : Module) (u : Universe) (d : DeclaringAttribute) :
    d.bare.declaration module u = d.declaration module u := by
  rw [declaration, declaration, kindAndClass_bare]
  simp only [bare, classNameOf_bare]

theorem warning?_bare (module : Module) (u : Universe) (d : DeclaringAttribute) :
    d.bare.warning? module u = d.warning? module u := by
  rw [warning?, warning?, declaration_bare, text_bare]

section Rearranged

variable {module other : Module} {u u' w : Universe}

/-- The declaring attributes of a rearranged module are the same in another order. -/
theorem perm_ofModule (h : module.Rearranged other) :
    ((ofModule module).map bare).Perm ((ofModule other).map bare) := by
  have hsplit : ∀ m : Module, (ofModule m).map bare =
      (m.attributes.filter (simpleName ·.typeName = attributeName)).map (⟨·, none⟩) ++
        m.types.flatMap fun type =>
          (type.attributes.filter (simpleName ·.typeName = attributeName)).map
            (⟨·, some type.bare⟩) := by
    intro m
    simp only [ofModule, List.map_append, List.map_map, List.map_flatMap]
    rfl
  rw [hsplit, hsplit]
  refine ((h.attributes.filter _).map _).append (h.types.perm_flatMap fun a b hab => ?_)
  rw [hab.1]
  exact (hab.2.filter _).map _

/-- What does not depend on the attributes of types is made of declaring attributes without them. -/
theorem filterMap_map_bare {β : Type} {f : DeclaringAttribute → Option β}
    (hf : ∀ d, f d.bare = f d) (ds : List DeclaringAttribute) :
    (ds.map bare).filterMap f = ds.filterMap f := by
  rw [List.filterMap_map]
  exact congrArg (List.filterMap · ds) (funext hf)

/-- What is made of the declaring attributes of a rearranged module is the same in another
order. -/
theorem perm_filterMap_ofModule {β : Type} {f f' : DeclaringAttribute → Option β}
    (h : module.Rearranged other) (hf : ∀ d, f d.bare = f d) (hf' : ∀ d, f' d = f d) :
    ((ofModule module).filterMap f).Perm ((ofModule other).filterMap f') := by
  rw [funext hf', ← filterMap_map_bare hf (ofModule module),
    ← filterMap_map_bare hf (ofModule other)]
  exact (perm_ofModule h).filterMap f

section SameTypes

variable (hw : w.Shows u) (hw' : w.Shows u')
  (hfind : ∀ name, (other.findType? name).map TypeDef.bare =
    (module.findType? name).map TypeDef.bare)
include hw hw' hfind

/-- Whether a class can be declared depends on the types of the module and those in sight. -/
theorem checkClass_eq (kind : PluginKind) (className : String) :
    checkClass other u' kind className = checkClass module u kind className := by
  have hsame := hfind className
  rw [checkClass, checkClass]
  cases htype : module.findType? className with
  | none =>
    rw [htype, Option.map_none, Option.map_eq_none_iff] at hsame
    rw [hsame]
  | some type =>
    rw [htype, Option.map_some, Option.map_eq_some_iff] at hsame
    obtain ⟨type', htype', hbare⟩ := hsame
    have hkind : type'.kind = type.kind := congrArg (·.kind) hbare
    have habstract : type'.isAbstract = type.isAbstract := congrArg (·.isAbstract) hbare
    have hderives : u'.derivesFrom type' kind.baseClassName =
        u.derivesFrom type kind.baseClassName := by
      rw [← hw'.derivesFrom_bare, hbare, hw.derivesFrom_bare]
    rw [htype']
    simp only [hkind, habstract, hderives]

theorem declaration_eq (d : DeclaringAttribute) :
    d.declaration other u' = d.declaration module u := by
  rw [declaration, declaration]
  simp only [checkClass_eq hw hw' hfind]

theorem warning?_eq (d : DeclaringAttribute) :
    d.warning? other u' = d.warning? module u := by
  rw [warning?, warning?, declaration_eq hw hw' hfind]

end SameTypes

end Rearranged

end DeclaringAttribute

/-! ## Outcomes -/

/-- The same error, but for the order of diagnostics. -/
inductive Error.SameUpToOrder : Error → Error → Prop
  | refl (e : Error) : SameUpToOrder e e
  | noPluginFound (module : String) {diagnostics others : List String}
      (h : diagnostics.Perm others) :
      SameUpToOrder (.noPluginFound module diagnostics) (.noPluginFound module others)

/-- The same outcome: values that the relation takes for the same, or the same error. -/
inductive SameOutcome {α : Type} (R : α → α → Prop) : Except Error α → Except Error α → Prop
  | ok {a b : α} (h : R a b) : SameOutcome R (.ok a) (.ok b)
  | error {e e' : Error} (h : e.SameUpToOrder e') : SameOutcome R (.error e) (.error e')

/-- The same declarations, but for the order of warnings. -/
structure Declarations.SameUpToOrder (a b : Declarations) : Prop where
  declarations : b.declarations = a.declarations
  assembly : b.assembly = a.assembly
  warnings : a.warnings.Perm b.warnings

/-- The same analysis, but for the order of warnings. -/
structure Analysis.SameUpToOrder (a b : Analysis) : Prop where
  declarations : a.declarations.SameUpToOrder b.declarations
  implementations : b.implementations = a.implementations
  decision : b.decision = a.decision

namespace Declarations

variable {module other : Module} {u u' w : Universe}

/-- The classes declared for a kind do not depend on the order of the declarations. -/
theorem classesOf_eq_of_perm {found found' : List Declaration} (h : found.Perm found')
    (kind : PluginKind) : classesOf found' kind = classesOf found kind :=
  Text.nameSet_eq_nameSet fun _ => ((h.filter _).map _).symm.mem_iff

/-- A rearranged module declares the same plugins, or fails in the same way. -/
theorem ofModule_rearranged (h : module.Rearranged other) (hw : w.Shows u) (hw' : w.Shows u')
    (hfind : ∀ name, (other.findType? name).map TypeDef.bare =
      (module.findType? name).map TypeDef.bare) :
    SameOutcome SameUpToOrder (ofModule module u) (ofModule other u') := by
  have hfound : ((DeclaringAttribute.ofModule module).filterMap
      fun d => (d.declaration module u).toOption).Perm
      ((DeclaringAttribute.ofModule other).filterMap
        fun d => (d.declaration other u').toOption) :=
    DeclaringAttribute.perm_filterMap_ofModule h
      (fun d => by rw [d.declaration_bare])
      (fun d => by rw [d.declaration_eq hw hw' hfind])
  have hwarnings : ((DeclaringAttribute.ofModule module).filterMap (·.warning? module u)).Perm
      ((DeclaringAttribute.ofModule other).filterMap (·.warning? other u')) :=
    DeclaringAttribute.perm_filterMap_ofModule h (fun d => d.warning?_bare module u)
      (fun d => d.warning?_eq hw hw' hfind)
  rw [ofModule, ofModule]
  simp only [← hfound.isEmpty_eq, classesOf_eq_of_perm hfound, h.assembly]
  split_ifs
  · exact .error (.noPluginFound _ hwarnings)
  · split
    · exact .error (.refl _)
    · exact .ok ⟨rfl, rfl, hwarnings⟩

end Declarations

namespace Analysis

variable {module other : Module} {references others : List Module}

/-- Where the types of a user module have different names, and so have those of its references, the
analysis finds the same in whatever order the references, the types of each module and all
attributes are given: the same declarations, implemented members and decision, or the same error.
Only warnings and diagnostics may come in another order. -/
theorem ofModules_rearranged (hnames : DistinctNames module references)
    (hmodule : module.Rearranged other)
    (hreferences : Reordered Module.Rearranged references others) :
    SameOutcome SameUpToOrder (ofModules module references) (ofModules other others) := by
  obtain ⟨w, hw, hw'⟩ := Universe.exists_mirrors hnames hmodule hreferences
  have hfind := hmodule.findType?_eq hnames
  have hdeclarations := Declarations.ofModule_rearranged hmodule hw.shows hw'.shows hfind
  have himplementations : ∀ d d' : Declarations, d'.declarations = d.declarations →
      implementationsOf (.ofModules other others) d' =
        implementationsOf (.ofModules module references) d := by
    intro d d' hsame
    funext kind
    rw [implementationsOf, implementationsOf, Declarations.find?, Declarations.find?, hsame]
    congr 1
    funext declaration
    -- Both have the members that the mirror has.
    rw [← ImplementedMember.ofDeclaration_eq hw', ImplementedMember.ofDeclaration_eq hw]
  simp only [ofModules, hmodule.assembly]
  generalize Declarations.ofModule module _ = declared at hdeclarations ⊢
  generalize Declarations.ofModule other _ = declared' at hdeclarations ⊢
  cases hdeclarations with
  | error h => exact .error h
  | @ok d d' h =>
    have hsame := himplementations d d' h.declarations
    simp only [bind, Except.bind, hsame]
    cases Decision.ofImplementations module.assembly.name
        (implementationsOf (.ofModules module references) d) with
    | error e => exact .error (.refl e)
    | ok decision => exact .ok ⟨h, rfl, rfl⟩

/-- An attribute that declares a plugin, if its arguments can be used. -/
def pluginAttribute (args : List AttributeArg) : CustomAttribute :=
  ⟨DeclaringAttribute.attributeName, args⟩

/-- A class of a name with attributes. -/
def attributedClass (fullName : String) (baseType : Option String)
    (attributes : List CustomAttribute) : TypeDef :=
  { fullName, kind := .class, isAbstract := false, baseType, interfaces := [], methods := []
    attributes }

/-- A module with types. -/
def moduleOf (name : String) (types : List TypeDef) : Module := ⟨⟨name, none⟩, [], types⟩

/-- A plugin with a second declaration that cannot be used, and another class. -/
def orderedModule : Module :=
  moduleOf "Sample"
    [attributedClass "Fs" (some "FsPlugin")
      [pluginAttribute [.string (some "FileSystem")], pluginAttribute []],
    attributedClass "Other" none []]

/-- The plugin with its classes and attributes in the other order. -/
def reversedModule : Module :=
  moduleOf "Sample"
    [attributedClass "Other" none [],
    attributedClass "Fs" (some "FsPlugin")
      [pluginAttribute [], pluginAttribute [.string (some "FileSystem")]]]

/-- The module with the base class of the plugin. -/
def baseModule : Module := moduleOf "Base" [attributedClass "FsPlugin" none []]

theorem ofModules_rearranged_reversedModule :
    DistinctNames orderedModule [baseModule, moduleOf "Empty" []] ∧
      orderedModule.Rearranged reversedModule ∧
      Reordered Module.Rearranged [baseModule, moduleOf "Empty" []]
        [moduleOf "Empty" [], baseModule] ∧
      SameOutcome SameUpToOrder (ofModules orderedModule [baseModule, moduleOf "Empty" []])
        (ofModules reversedModule [moduleOf "Empty" [], baseModule]) ∧
      (ofModules orderedModule [baseModule, moduleOf "Empty" []]).isOk = true := by
  have hnames : DistinctNames orderedModule [baseModule, moduleOf "Empty" []] :=
    ⟨by decide, by decide⟩
  have hself : ∀ m : Module, m.Rearranged m := fun m =>
    ⟨rfl, .refl _, ⟨_, .refl _, List.forall₂_same.2 fun _ _ => ⟨rfl, .refl _⟩⟩⟩
  have hmodule : orderedModule.Rearranged reversedModule :=
    ⟨rfl, .refl _, ⟨_, .swap _ _ _,
      .cons ⟨rfl, .refl _⟩ (.cons ⟨rfl, .swap _ _ _⟩ .nil)⟩⟩
  have hreferences : Reordered Module.Rearranged [baseModule, moduleOf "Empty" []]
      [moduleOf "Empty" [], baseModule] :=
    ⟨_, .swap _ _ _, List.forall₂_same.2 fun m _ => hself m⟩
  exact ⟨hnames, hmodule, hreferences, ofModules_rearranged hnames hmodule hreferences,
    by decide +kernel⟩

end Analysis

end PluginBuild
