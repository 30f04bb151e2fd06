import PluginBuild.Proofs.Metadata.Hierarchy
import PluginBuild.Proofs.Plugin.OrderIndependence
/-!
# What a module declares

A declaring attribute states a kind and a class (`DeclaringAttribute.States`), and declares a plugin
if the class can serve the kind (`DeclaringAttribute.declaration_eq_ok_iff`). Whether it does depends
on no other attribute. The attributes are read one after the other (`Scanned`), and what is found
decides the outcome (`Outcome`). An attribute that declares nothing adds a warning at its place and
changes nothing else (`Declarations.outcome_ofModule`).
-/

namespace PluginBuild

open Metadata

/-! ## Kinds -/

namespace PluginKind

/-- A text names a kind in any case of ASCII letters, with blanks around the name or without. -/
def IsNamed (kind : PluginKind) (text : String) : Prop :=
  Text.asciiLower (Text.trim text.toList) = Text.asciiLower kind.name.toList

theorem mem_all (kind : PluginKind) : kind ∈ all := by
  cases kind <;> decide

theorem pairwise_all : all.Pairwise (·.rank < ·.rank) := by
  decide

theorem eq_of_rank {kind other : PluginKind} (h : kind.rank = other.rank) : kind = other := by
  cases kind <;> cases other <;> first | rfl | cases h

/-- No two kinds have the same name but for the case of letters. -/
theorem eq_of_isNamed {kind other : PluginKind} {text : String} (h : kind.IsNamed text)
    (hother : other.IsNamed text) : kind = other := by
  have hnames : Text.asciiLower kind.name.toList = Text.asciiLower other.name.toList :=
    h.symm.trans hother
  cases kind <;> cases other <;> first | rfl | exact absurd hnames (by decide)

theorem ofText_eq_ok_iff {text : String} {kind : PluginKind} :
    ofText text = .ok kind ↔ kind.IsNamed text := by
  rw [ofText]
  constructor
  · intro h
    split at h
    · next found hfound =>
      cases h
      have hname := List.find?_some hfound
      exact (eq_of_beq hname).symm
    · cases h
  · intro h
    split
    · next found hfound =>
      have hname := List.find?_some hfound
      rw [eq_of_isNamed (eq_of_beq hname).symm h]
    · next hnone =>
      have hne := List.find?_eq_none.1 hnone kind kind.mem_all
      exact absurd (beq_iff_eq.2 h.symm) hne

/-- The first kind that meets a condition comes before all others that do. -/
theorem of_find?_all {condition : PluginKind → Bool} {kind : PluginKind}
    (h : all.find? condition = some kind) :
    condition kind = true ∧ ∀ other, other.rank < kind.rank → condition other = false := by
  obtain ⟨hkind, before, after, hall, hbefore⟩ := List.find?_eq_some_iff_append.1 h
  refine ⟨hkind, fun other hrank => ?_⟩
  -- All kinds are listed by rank, so that a kind of lower rank comes before the one found.
  have hmem : other ∈ before ++ kind :: after := hall ▸ other.mem_all
  have hordered : (before ++ kind :: after).Pairwise (·.rank < ·.rank) := hall ▸ pairwise_all
  rcases List.mem_append.1 hmem with hother | hother
  · simpa using hbefore other hother
  · rcases List.mem_cons.1 hother with rfl | hother
    · exact absurd hrank (Nat.lt_irrefl _)
    · have hlater := (List.pairwise_cons.1 (List.pairwise_append.1 hordered).2.1).1 other hother
      omega

end PluginKind

/-! ## One attribute -/

namespace DeclaringAttribute

/-- An attribute states the text of a kind and the name of a class: by reference to the class, by
its name with blanks around it or without, or by its place on the class. -/
inductive States : DeclaringAttribute → String → String → Prop
  | type (typeName kind className : String) (owner : Option TypeDef) :
      States ⟨⟨typeName, [.string (some kind), .type className]⟩, owner⟩ kind className
  | name (typeName kind className : String) (owner : Option TypeDef) :
      States ⟨⟨typeName, [.string (some kind), .string (some className)]⟩, owner⟩ kind
        (String.ofList (Text.trim className.toList))
  | place (typeName kind : String) (type : TypeDef) :
      States ⟨⟨typeName, [.string (some kind)]⟩, some type⟩ kind type.fullName

/-- The class with a name is a concrete one of the module and has the base class of the kind, which
need not be in sight, among its base types. -/
def Serves (module : Module) (u : Universe) (kind : PluginKind) (className : String) : Prop :=
  className ≠ "" ∧ ∃ type, module.findType? className = some type ∧
    type.kind ≠ .interface ∧ type.isAbstract = false ∧
    ∃ n lower, iterate? u.baseOf? n type = some lower ∧
      ∃ name, lower.baseType = some name ∧ simpleName name = kind.baseClassName

/-- An attribute declares that the class which it states serves the kind which it states. -/
def Declares (module : Module) (u : Universe) (d : DeclaringAttribute) (x : Declaration) : Prop :=
  ∃ text, d.States text x.className ∧ x.kind.IsNamed text ∧ Serves module u x.kind x.className

variable {module other : Module} {u u' : Universe} {d : DeclaringAttribute} {x : Declaration}

theorem checkClass_eq_ok_iff {kind : PluginKind} {className : String} :
    checkClass module u kind className = .ok x ↔
      x = ⟨kind, className⟩ ∧ Serves module u kind className := by
  rw [checkClass, Serves]
  by_cases hempty : className = ""
  · simp [hempty]
  · rw [if_neg hempty]
    cases htype : module.findType? className with
    | none => simp
    | some type =>
      by_cases hconcrete : type.kind = .interface ∨ type.isAbstract
      · have hnot : ¬(type.kind ≠ .interface ∧ type.isAbstract = false) := by
          rcases hconcrete with h | h <;> simp [h]
        simp only [if_pos hconcrete, reduceCtorEq, false_iff]
        rintro ⟨-, -, found, hfound, hkind, habstract, -⟩
        cases hfound
        exact hnot ⟨hkind, habstract⟩
      · have hboth : type.kind ≠ .interface ∧ type.isAbstract = false := by
          simpa [not_or] using hconcrete
        simp only [if_neg hconcrete, Option.some.injEq, exists_eq_left', ← Universe.derivesFrom_iff]
        by_cases hderives : u.derivesFrom type kind.baseClassName = true
        · rw [if_pos hderives]
          simp [hempty, hboth, hderives, eq_comm]
        · rw [if_neg hderives]
          simp [hderives]

theorem kindAndClass_eq_ok_iff {kindArg : AttributeArg} {classArg : Option AttributeArg} :
    d.kindAndClass = .ok (kindArg, classArg) ↔
      (∃ arg, d.custom.args = [kindArg, arg] ∧ classArg = some arg) ∨
        d.custom.args = [kindArg] ∧ d.owner.isSome = true ∧ classArg = none := by
  obtain ⟨⟨typeName, args⟩, owner⟩ := d
  rw [kindAndClass]
  rcases args with _ | ⟨first, _ | ⟨second, _ | ⟨third, rest⟩⟩⟩ <;> cases owner <;>
    simp [@eq_comm _ classArg]

theorem classNameOf_eq_ok_iff {arg : Option AttributeArg} {owner : Option TypeDef}
    {className : String} :
    classNameOf arg owner = .ok className ↔
      arg = some (.type className) ∨
        (∃ text, arg = some (.string (some text)) ∧
          className = String.ofList (Text.trim text.toList)) ∨
        arg = none ∧ ∃ type, owner = some type ∧ className = type.fullName := by
  rcases arg with _ | ⟨_ | _⟩ | _ | _ | _ | _ <;> cases owner <;> simp [classNameOf, eq_comm]

theorem text?_eq_some_iff {arg : AttributeArg} {text : String} :
    arg.text? = some text ↔ arg = .string (some text) := by
  cases arg <;> simp [AttributeArg.text?]

/-- What the arguments of an attribute give is what the attribute states. -/
theorem states_iff {text className : String} :
    d.States text className ↔ ∃ kindArg classArg, d.kindAndClass = .ok (kindArg, classArg) ∧
      kindArg.text? = some text ∧ classNameOf classArg d.owner = .ok className := by
  constructor
  · rintro (_ | _ | _) <;> exact ⟨_, _, rfl, rfl, rfl⟩
  · rintro ⟨kindArg, classArg, hargs, hkind, hclass⟩
    obtain rfl := text?_eq_some_iff.1 hkind
    obtain ⟨⟨typeName, args⟩, owner⟩ := d
    rcases kindAndClass_eq_ok_iff.1 hargs with ⟨arg, hlist, rfl⟩ | ⟨hlist, -, rfl⟩
    · dsimp only at hlist
      subst hlist
      rcases classNameOf_eq_ok_iff.1 hclass with harg | ⟨name, harg, rfl⟩ | ⟨harg, -⟩
      · cases harg
        exact .type ..
      · cases harg
        exact .name ..
      · cases harg
    · dsimp only at hlist
      subst hlist
      rcases classNameOf_eq_ok_iff.1 hclass with harg | ⟨name, harg, -⟩ | ⟨-, type, rfl, rfl⟩
      · cases harg
      · cases harg
      · exact .place ..

theorem kindOf_eq_ok_iff {arg : AttributeArg} {kind : PluginKind} :
    kindOf arg = .ok kind ↔ ∃ text, arg.text? = some text ∧ kind.IsNamed text := by
  rw [kindOf]
  cases htext : arg.text? with
  | none => simp
  | some text =>
    simp only [Option.some.injEq, exists_eq_left', ← PluginKind.ofText_eq_ok_iff]
    cases PluginKind.ofText text <;> simp [Except.mapError]

/-- An attribute makes a declaration exactly if it declares it. -/
theorem declaration_eq_ok_iff : d.declaration module u = .ok x ↔ d.Declares module u x := by
  have hsteps : d.declaration module u = .ok x ↔ ∃ kindArg classArg,
      d.kindAndClass = .ok (kindArg, classArg) ∧ ∃ kind, kindOf kindArg = .ok kind ∧
        ∃ className, classNameOf classArg d.owner = .ok className ∧
          checkClass module u kind className = .ok x := by
    rw [declaration]
    cases hargs : d.kindAndClass with
    | error fault => simp [bind, Except.bind]
    | ok args =>
      obtain ⟨kindArg, classArg⟩ := args
      cases hkind : kindOf kindArg with
      | error fault => simp [bind, Except.bind, hkind]
      | ok kind =>
        cases hclass : classNameOf classArg d.owner <;>
          simp [bind, Except.bind, hkind, hclass]
  rw [hsteps, Declares]
  constructor
  · rintro ⟨kindArg, classArg, hargs, kind, hkind, className, hclass, hcheck⟩
    obtain ⟨text, htext, hnamed⟩ := kindOf_eq_ok_iff.1 hkind
    obtain ⟨rfl, hserves⟩ := checkClass_eq_ok_iff.1 hcheck
    exact ⟨text, states_iff.2 ⟨kindArg, classArg, hargs, htext, hclass⟩, hnamed, hserves⟩
  · rintro ⟨text, hstates, hnamed, hserves⟩
    obtain ⟨kindArg, classArg, hargs, htext, hclass⟩ := states_iff.1 hstates
    exact ⟨kindArg, classArg, hargs, x.kind, kindOf_eq_ok_iff.2 ⟨text, htext, hnamed⟩,
      x.className, hclass, checkClass_eq_ok_iff.2 ⟨rfl, hserves⟩⟩

end DeclaringAttribute

/-! ## All attributes -/

/-- What is found in declaring attributes, which are read one after the other: the declarations, and
a warning about each attribute that makes none. -/
inductive Scanned (module : Module) (u : Universe) :
    List DeclaringAttribute → List Declaration → List String → Prop
  | nil : Scanned module u [] [] []
  | declared {d : DeclaringAttribute} {x : Declaration} {attributes : List DeclaringAttribute}
      {found : List Declaration} {warnings : List String} (h : d.Declares module u x)
      (hrest : Scanned module u attributes found warnings) :
      Scanned module u (d :: attributes) (x :: found) warnings
  | passedOver {d : DeclaringAttribute} {fault : DeclarationFault}
      {attributes : List DeclaringAttribute} {found : List Declaration} {warnings : List String}
      (h : ∀ x, ¬d.Declares module u x) (hfault : d.declaration module u = .error fault)
      (hrest : Scanned module u attributes found warnings) :
      Scanned module u (d :: attributes) found
        ((Error.invalidDeclaration d.text fault.message).message :: warnings)

/-- The names of the classes that are found for a kind, in order, each once. -/
def ListsClasses (found : List Declaration) (kind : PluginKind) (classes : List String) : Prop :=
  classes.Pairwise (· < ·) ∧ ∀ name, name ∈ classes ↔ ⟨kind, name⟩ ∈ found

/-- The outcome for a module with the declarations that are found and the warnings. -/
inductive Outcome (module : Module) (found : List Declaration) (warnings : List String) :
    Except Error Declarations → Prop
  /-- Nothing is declared. -/
  | noneFound (h : found = []) :
      Outcome module found warnings (.error (.noPluginFound module.assembly.name warnings))
  /-- Several classes are declared for a kind, and one at most for each kind before it. -/
  | ambiguous {kind : PluginKind} {classes : List String} (hclasses : ListsClasses found kind classes)
      (hseveral : 1 < classes.length)
      (hleast : ∀ x ∈ found, ∀ y ∈ found, x.kind = y.kind → x.kind.rank < kind.rank → x = y) :
      Outcome module found warnings
        (.error (.ambiguousDeclaration module.assembly.name kind classes))
  /-- One class is declared for each kind that is declared. -/
  | declared {declarations : List Declaration} (hfound : found ≠ [])
      (hmem : ∀ x, x ∈ declarations ↔ x ∈ found)
      (hsorted : declarations.Pairwise (·.kind.rank < ·.kind.rank)) :
      Outcome module found warnings (.ok ⟨declarations, module.assembly, warnings⟩)

namespace Declarations

variable {module other : Module} {u u' : Universe} {attributes : List DeclaringAttribute}
  {found : List Declaration} {warnings : List String}

/-- The declarations that attributes make. -/
def foundIn (module : Module) (u : Universe) (attributes : List DeclaringAttribute) :
    List Declaration :=
  attributes.filterMap fun d => (d.declaration module u).toOption

/-- The warnings about attributes that make no declaration. -/
def warningsIn (module : Module) (u : Universe) (attributes : List DeclaringAttribute) :
    List String :=
  attributes.filterMap (·.warning? module u)

/-- What is found in attributes is what each of them declares, or the warning about it. -/
theorem scanned (module : Module) (u : Universe) (attributes : List DeclaringAttribute) :
    Scanned module u attributes (foundIn module u attributes) (warningsIn module u attributes) := by
  induction attributes with
  | nil => exact .nil
  | cons d rest ih =>
    cases hmade : d.declaration module u with
    | ok x =>
      have hfound : foundIn module u (d :: rest) = x :: foundIn module u rest := by
        simp [foundIn, hmade, Except.toOption]
      have hwarnings : warningsIn module u (d :: rest) = warningsIn module u rest := by
        simp [warningsIn, DeclaringAttribute.warning?, hmade]
      rw [hfound, hwarnings]
      exact .declared (DeclaringAttribute.declaration_eq_ok_iff.1 hmade) ih
    | error fault =>
      have hfound : foundIn module u (d :: rest) = foundIn module u rest := by
        simp [foundIn, hmade, Except.toOption]
      have hwarnings : warningsIn module u (d :: rest) =
          (Error.invalidDeclaration d.text fault.message).message :: warningsIn module u rest := by
        simp [warningsIn, DeclaringAttribute.warning?, hmade]
      rw [hfound, hwarnings]
      refine .passedOver (fun x hx => ?_) hmade ih
      cases hmade.symm.trans (DeclaringAttribute.declaration_eq_ok_iff.2 hx)

/-- What is found in attributes does not leave a choice. -/
theorem eq_of_scanned (h : Scanned module u attributes found warnings) :
    found = foundIn module u attributes ∧ warnings = warningsIn module u attributes := by
  induction h with
  | nil => exact ⟨rfl, rfl⟩
  | declared hdeclares _ ih =>
    have hmade := DeclaringAttribute.declaration_eq_ok_iff.2 hdeclares
    simp [ih, foundIn, warningsIn, DeclaringAttribute.warning?, hmade, Except.toOption]
  | passedOver _ hfault _ ih =>
    simp [ih, foundIn, warningsIn, DeclaringAttribute.warning?, hfault, Except.toOption]

theorem mem_classesOf {kind : PluginKind} {name : String} :
    name ∈ classesOf found kind ↔ ⟨kind, name⟩ ∈ found := by
  rw [classesOf, Text.mem_nameSet, List.mem_map]
  constructor
  · rintro ⟨⟨kind', name'⟩, hmem, rfl⟩
    obtain ⟨hfound, hkind⟩ := List.mem_filter.1 hmem
    obtain rfl : kind' = kind := of_decide_eq_true hkind
    exact hfound
  · intro hfound
    exact ⟨⟨kind, name⟩, List.mem_filter.2 ⟨hfound, decide_eq_true rfl⟩, rfl⟩

theorem listsClasses_classesOf (found : List Declaration) (kind : PluginKind) :
    ListsClasses found kind (classesOf found kind) := by
  refine ⟨?_, fun name => mem_classesOf⟩
  have hpairwise := Ordered.pairwise_ofList Text.isOrder_names
    ((found.filter (·.kind = kind)).map (·.className))
  exact hpairwise.imp fun h => of_decide_eq_true h

/-- Of a kind with one class at most, all declarations are the same. -/
theorem eq_of_length_classesOf {x y : Declaration} (hx : x ∈ found) (hy : y ∈ found)
    (hkind : x.kind = y.kind) (hone : (classesOf found x.kind).length ≤ 1) : x = y := by
  obtain ⟨kind, name⟩ := x
  obtain ⟨kind', name'⟩ := y
  dsimp only at hkind hone
  subst hkind
  have hname : name ∈ classesOf found kind := mem_classesOf.2 hx
  have hname' : name' ∈ classesOf found kind := mem_classesOf.2 hy
  rcases hlist : classesOf found kind with _ | ⟨only, _ | ⟨second, rest⟩⟩
  · simp [hlist] at hname
  · rw [hlist, List.mem_singleton] at hname hname'
    rw [hname, hname']
  · simp [hlist] at hone

/-- The classes of all kinds, where no kind has several, are what is found, in the order of kinds. -/
theorem declarations_sorted (hone : ∀ kind, (classesOf found kind).length ≤ 1) :
    (∀ x, x ∈ (PluginKind.all.flatMap fun kind => (classesOf found kind).map (⟨kind, ·⟩)) ↔
        x ∈ found) ∧
      (PluginKind.all.flatMap fun kind => (classesOf found kind).map
        (Declaration.mk kind)).Pairwise (·.kind.rank < ·.kind.rank) := by
  constructor
  · rintro ⟨kind, name⟩
    simp only [List.mem_flatMap, List.mem_map, Declaration.mk.injEq]
    constructor
    · rintro ⟨_, -, _, hname, rfl, rfl⟩
      exact mem_classesOf.1 hname
    · intro hfound
      exact ⟨kind, kind.mem_all, name, mem_classesOf.2 hfound, rfl, rfl⟩
  · refine List.pairwise_flatMap.2 ⟨fun kind _ => ?_, PluginKind.pairwise_all.imp ?_⟩
    · have hkind := hone kind
      rcases hlist : classesOf found kind with _ | ⟨only, _ | ⟨second, rest⟩⟩
      · exact .nil
      · exact List.pairwise_singleton _ _
      · simp [hlist] at hkind
    · intro kind later hrank x hx y hy
      obtain ⟨_, -, rfl⟩ := List.mem_map.1 hx
      obtain ⟨_, -, rfl⟩ := List.mem_map.1 hy
      exact hrank

/-- What comes of the declarations and warnings that are found. -/
def ofFound (assembly : AssemblyIdentity) (found : List Declaration) (warnings : List String) :
    Except Error Declarations :=
  if found.isEmpty then .error (.noPluginFound assembly.name warnings)
  else match PluginKind.all.find? fun kind => 1 < (classesOf found kind).length with
    | some kind => .error (.ambiguousDeclaration assembly.name kind (classesOf found kind))
    | none =>
      .ok ⟨PluginKind.all.flatMap fun kind => (classesOf found kind).map (⟨kind, ·⟩), assembly,
        warnings⟩

theorem ofModule_eq_ofFound (module : Module) (u : Universe) :
    ofModule module u = ofFound module.assembly
      (foundIn module u (DeclaringAttribute.ofModule module))
      (warningsIn module u (DeclaringAttribute.ofModule module)) :=
  rfl

/-- What is found decides the outcome. -/
theorem outcome_ofFound (module : Module) (found : List Declaration) (warnings : List String) :
    Outcome module found warnings (ofFound module.assembly found warnings) := by
  rw [ofFound]
  split
  · next hempty => exact .noneFound (List.isEmpty_iff.1 hempty)
  · next hfound =>
    split
    · next kind hkind =>
      obtain ⟨hseveral, hleast⟩ := PluginKind.of_find?_all hkind
      refine .ambiguous (listsClasses_classesOf found kind) (of_decide_eq_true hseveral) ?_
      intro x hx y hy hsame hrank
      have hone := of_decide_eq_false (hleast x.kind hrank)
      exact eq_of_length_classesOf hx hy hsame (by omega)
    · next hnone =>
      have hone : ∀ kind, (classesOf found kind).length ≤ 1 := by
        intro kind
        have hkind := List.find?_eq_none.1 hnone kind kind.mem_all
        simpa using hkind
      obtain ⟨hmem, hsorted⟩ := declarations_sorted hone
      exact .declared (fun hnil => hfound (List.isEmpty_iff.2 hnil)) hmem hsorted

/-- Several classes of one kind are different declarations. -/
theorem exists_ne_of_listsClasses {kind : PluginKind} {classes : List String}
    (hclasses : ListsClasses found kind classes) (hseveral : 1 < classes.length) :
    ∃ x ∈ found, ∃ y ∈ found, x.kind = kind ∧ y.kind = kind ∧ x ≠ y := by
  obtain ⟨hsorted, hmem⟩ := hclasses
  rcases classes with _ | ⟨first, _ | ⟨second, rest⟩⟩
  · simp at hseveral
  · simp at hseveral
  · have hlt : first < second := (List.pairwise_cons.1 hsorted).1 second (by simp)
    refine ⟨⟨kind, first⟩, (hmem first).1 (by simp), ⟨kind, second⟩, (hmem second).1 (by simp),
      rfl, rfl, fun heq => ?_⟩
    cases heq
    exact absurd hlt (lt_irrefl _)

/-- Where one declaration is listed for each kind, in order, those of one kind are the same. -/
theorem eq_of_pairwise_rank {declarations : List Declaration}
    (hsorted : declarations.Pairwise (·.kind.rank < ·.kind.rank)) {x y : Declaration}
    (hx : x ∈ declarations) (hy : y ∈ declarations) (hkind : x.kind = y.kind) : x = y := by
  have : Std.Symm fun a b : Declaration => a.kind ≠ b.kind := ⟨fun _ _ h => h.symm⟩
  have hkinds : declarations.Pairwise fun a b => a.kind ≠ b.kind :=
    hsorted.imp fun hrank heq => absurd hrank (by rw [heq]; exact Nat.lt_irrefl _)
  by_contra hne
  exact hkinds.forall hx hy hne hkind

/-- What is found leaves one outcome only. -/
theorem eq_of_outcome {r r' : Except Error Declarations} (h : Outcome module found warnings r)
    (h' : Outcome module found warnings r') : r = r' := by
  cases h with
  | noneFound hempty =>
    subst hempty
    cases h' with
    | noneFound => rfl
    | ambiguous hclasses hseveral =>
      obtain ⟨x, hx, -⟩ := exists_ne_of_listsClasses hclasses hseveral
      cases hx
    | declared hfound => exact absurd rfl hfound
  | @ambiguous kind classes hclasses hseveral hleast =>
    obtain ⟨x, hx, y, hy, hxkind, hykind, hne⟩ := exists_ne_of_listsClasses hclasses hseveral
    cases h' with
    | noneFound hempty =>
      rw [hempty] at hx
      cases hx
    | @ambiguous kind' classes' hclasses' hseveral' hleast' =>
      obtain ⟨x', hx', y', hy', hxkind', hykind', hne'⟩ :=
        exists_ne_of_listsClasses hclasses' hseveral'
      -- Neither kind comes before the other, as it has several classes.
      have hle : ¬kind.rank < kind'.rank := fun hlt =>
        hne (hleast' x hx y hy (hxkind.trans hykind.symm) (by rwa [hxkind]))
      have hge : ¬kind'.rank < kind.rank := fun hlt =>
        hne' (hleast x' hx' y' hy' (hxkind'.trans hykind'.symm) (by rwa [hxkind']))
      obtain rfl : kind = kind' := PluginKind.eq_of_rank (by omega)
      have hsame : classes = classes' :=
        hclasses.1.eq_of_mem_iff hclasses'.1 fun name =>
          (hclasses.2 name).trans (hclasses'.2 name).symm
      rw [hsame]
    | declared _ hmem hsorted =>
      exact absurd (eq_of_pairwise_rank hsorted ((hmem x).2 hx) ((hmem y).2 hy)
        (hxkind.trans hykind.symm)) hne
  | declared hfound hmem hsorted =>
    cases h' with
    | noneFound hempty => exact absurd hempty hfound
    | ambiguous hclasses hseveral =>
      obtain ⟨x, hx, y, hy, hxkind, hykind, hne⟩ := exists_ne_of_listsClasses hclasses hseveral
      exact absurd (eq_of_pairwise_rank hsorted ((hmem x).2 hx) ((hmem y).2 hy)
        (hxkind.trans hykind.symm)) hne
    | declared _ hmem' hsorted' =>
      have : Std.Irrefl fun a b : Declaration => a.kind.rank < b.kind.rank :=
        ⟨fun _ => Nat.lt_irrefl _⟩
      have : Std.Asymm fun a b : Declaration => a.kind.rank < b.kind.rank :=
        ⟨fun _ _ => Nat.lt_asymm⟩
      have hsame := hsorted.eq_of_mem_iff hsorted' fun x => (hmem x).trans (hmem' x).symm
      rw [hsame]

/-- What a module declares is found in its attributes: each declared class serves its kind. -/
theorem serves_of_mem {module : Module} {u : Universe} {declared : Declarations} {d : Declaration}
    (h : ofModule module u = .ok declared) (hd : d ∈ declared.declarations) :
    DeclaringAttribute.Serves module u d.kind d.className := by
  have houtcome := outcome_ofFound module
    (foundIn module u (DeclaringAttribute.ofModule module))
    (warningsIn module u (DeclaringAttribute.ofModule module))
  rw [← ofModule_eq_ofFound, h] at houtcome
  cases houtcome with
  | declared _ hmem =>
    obtain ⟨source, -, hfound⟩ := List.mem_filterMap.1 ((hmem d).1 hd)
    have hmade : source.declaration module u = .ok d := by
      cases hresult : source.declaration module u with
      | error fault => simp [hresult, Except.toOption] at hfound
      | ok x => simpa [hresult, Except.toOption] using hfound
    obtain ⟨text, -, -, hserves⟩ := DeclaringAttribute.declaration_eq_ok_iff.1 hmade
    exact hserves

end Declarations

/-! ## One attribute more -/

/-- The one module is the other with a declaring attribute more, on the module or on one of its
types. -/
inductive Metadata.Module.Adds (module : Module) : DeclaringAttribute → Module → Prop
  | toModule {before after : List CustomAttribute} (custom : CustomAttribute)
      (h : module.attributes = before ++ after) :
      Adds module ⟨custom, none⟩ { module with attributes := before ++ custom :: after }
  | toType {before after : List TypeDef} {type : TypeDef} {first last : List CustomAttribute}
      (custom : CustomAttribute) (htypes : module.types = before ++ type :: after)
      (h : type.attributes = first ++ last) :
      Adds module ⟨custom, some { type with attributes := first ++ custom :: last }⟩
        { module with
          types := before ++ { type with attributes := first ++ custom :: last } :: after }

/-- The modules have the same types, and so have the universes in sight, but for the attributes of
types. -/
structure SameTypes (module other : Module) (u u' : Universe) : Prop where
  types : other.bareTypes = module.bareTypes
  sight : ∀ name, (u'.get? name).map TypeDef.bare = (u.get? name).map TypeDef.bare

namespace SameTypes

variable {module other : Module} {u u' : Universe} {d d' : DeclaringAttribute}

/-- Modules with the same types have the same types in sight with the same references. -/
theorem ofModules (h : other.bareTypes = module.bareTypes) (references : List Module) :
    SameTypes module other (.ofModules module references) (.ofModules other references) where
  types := h
  sight name := by
    -- Which type is in sight is decided by the names, which attributes do not change.
    have htypes : (Universe.ofModules other references).bare.types =
        (Universe.ofModules module references).bare.types := by
      rw [Universe.types_bare, Universe.types_bare, h]
    have hbare : (Universe.ofModules other references).bare =
        (Universe.ofModules module references).bare := congrArg Universe.mk htypes
    rw [← Universe.shows_bare, ← Universe.shows_bare, hbare]

/-- An attribute declares the same in modules with the same types, whatever other attributes there
are. -/
theorem declaration_eq (h : SameTypes module other u u') (hd : d'.bare = d.bare) :
    d'.declaration other u' = d.declaration module u := by
  have hshows : u.bare.Shows u' := fun name => (u.shows_bare name).trans (h.sight name).symm
  have hfind : ∀ name, (other.findType? name).map TypeDef.bare =
      (module.findType? name).map TypeDef.bare := fun name => by
    rw [Module.map_bare_findType?, Module.map_bare_findType?, h.types]
  rw [DeclaringAttribute.declaration_eq u.shows_bare hshows hfind, ← d'.declaration_bare, hd,
    d.declaration_bare]

theorem warning?_eq (h : SameTypes module other u u') (hd : d'.bare = d.bare) :
    d'.warning? other u' = d.warning? module u := by
  rw [DeclaringAttribute.warning?, DeclaringAttribute.warning?, h.declaration_eq hd,
    ← d'.text_bare, hd, d.text_bare]

end SameTypes

namespace DeclaringAttribute

/-- The declaring attributes among those of a module or type. -/
def among (owner : Option TypeDef) (attributes : List CustomAttribute) : List DeclaringAttribute :=
  (attributes.filter (simpleName ·.typeName = attributeName)).map (⟨·, owner⟩)

theorem ofModule_eq_among (module : Module) :
    ofModule module = among none module.attributes ++
      module.types.flatMap fun type => among (some type) type.attributes :=
  rfl

theorem among_append (owner : Option TypeDef) (attributes more : List CustomAttribute) :
    among owner (attributes ++ more) = among owner attributes ++ among owner more := by
  rw [among, List.filter_append, List.map_append, among, among]

theorem among_cons {custom : CustomAttribute} (owner : Option TypeDef)
    (hname : simpleName custom.typeName = attributeName) (attributes : List CustomAttribute) :
    among owner (custom :: attributes) = ⟨custom, owner⟩ :: among owner attributes := by
  rw [among, List.filter_cons_of_pos (by simpa using hname), List.map_cons, among]

theorem map_bare_among (owner : Option TypeDef) (attributes : List CustomAttribute) :
    (among owner attributes).map bare = among (owner.map TypeDef.bare) attributes := by
  rw [among, List.map_map, among]
  rfl

end DeclaringAttribute

namespace Metadata.Module.Adds

open DeclaringAttribute (among among_append among_cons map_bare_among ofModule_eq_among)

variable {module other : Module} {added : DeclaringAttribute}

theorem assembly_eq (h : module.Adds added other) : other.assembly = module.assembly := by
  cases h <;> rfl

theorem bareTypes_eq (h : module.Adds added other) : other.bareTypes = module.bareTypes := by
  cases h with
  | toModule => rfl
  | toType custom htypes =>
    rw [bareTypes, bareTypes, htypes, List.map_append, List.map_append]
    rfl

/-- The declaring attributes are those without the new one, which stands between two of them. -/
theorem exists_ofModule_eq (h : module.Adds added other)
    (hname : simpleName added.custom.typeName = DeclaringAttribute.attributeName) :
    ∃ before after, DeclaringAttribute.ofModule other = before ++ added :: after ∧
      (before ++ after).map DeclaringAttribute.bare =
        (DeclaringAttribute.ofModule module).map DeclaringAttribute.bare := by
  cases h with
  | @toModule before after custom hattributes =>
    refine ⟨among none before, among none after ++
      module.types.flatMap fun type => among (some type) type.attributes, ?_, ?_⟩
    · rw [ofModule_eq_among, among_append, among_cons none hname]
      simp
    · rw [ofModule_eq_among, hattributes, among_append, List.append_assoc]
  | @toType before after type first last custom htypes hattributes =>
    -- The type with the attribute is the type without it but for its attributes.
    have hbare : ∀ attributes, TypeDef.bare { type with attributes } = type.bare := fun _ => rfl
    refine ⟨among none module.attributes ++
        before.flatMap (fun type => among (some type) type.attributes) ++
        among (some { type with attributes := first ++ custom :: last }) first,
      among (some { type with attributes := first ++ custom :: last }) last ++
        after.flatMap fun type => among (some type) type.attributes, ?_, ?_⟩
    · rw [ofModule_eq_among, List.flatMap_append, List.flatMap_cons, among_append,
        among_cons _ hname]
      simp
    · rw [ofModule_eq_among, htypes, List.flatMap_append, List.flatMap_cons, hattributes,
        among_append]
      simp only [List.map_append, map_bare_among, Option.map_some, hbare, List.append_assoc]

end Metadata.Module.Adds

namespace Declarations

variable {module other : Module} {u u' : Universe} {added : DeclaringAttribute}

/-- The outcome with other warnings, where it has some. -/
def withWarnings (warnings : List String) : Except Error Declarations → Except Error Declarations
  | .ok d => .ok { d with warnings }
  | .error (.noPluginFound name _) => .error (.noPluginFound name warnings)
  | .error e => .error e

theorem withWarnings_ofFound (assembly : AssemblyIdentity) (found : List Declaration)
    (warnings others : List String) :
    withWarnings warnings (ofFound assembly found others) = ofFound assembly found warnings := by
  rw [ofFound, ofFound]
  split
  · rfl
  · split <;> rfl

/-- From the same attributes the same is found in modules with the same types, and there are the
same warnings. -/
theorem foundIn_and_warningsIn_eq (h : SameTypes module other u u')
    {attributes others : List DeclaringAttribute}
    (hbare : others.map DeclaringAttribute.bare = attributes.map DeclaringAttribute.bare) :
    foundIn other u' others = foundIn module u attributes ∧
      warningsIn other u' others = warningsIn module u attributes := by
  have hmade : ∀ {β : Type} {f f' : DeclaringAttribute → Option β}, (∀ d, f d.bare = f d) →
      (∀ d, f' d = f d) → others.filterMap f' = attributes.filterMap f := by
    intro β f f' hf hf'
    rw [funext hf', ← DeclaringAttribute.filterMap_map_bare hf others, hbare,
      DeclaringAttribute.filterMap_map_bare hf]
  constructor
  · exact hmade (fun d => by rw [d.declaration_bare]) (fun d => by rw [h.declaration_eq rfl])
  · exact hmade (fun d => d.warning?_bare module u) (fun d => h.warning?_eq rfl)

/-- An attribute that makes no declaration adds a warning at its place, and the outcome is otherwise
the one without it. -/
theorem ofModule_of_adds (h : SameTypes module other u u') (hadds : module.Adds added other)
    (hname : simpleName added.custom.typeName = DeclaringAttribute.attributeName)
    {fault : DeclarationFault} (hfault : added.declaration other u' = .error fault) :
    ∃ before after, DeclaringAttribute.ofModule other = before ++ added :: after ∧
      ofModule other u' = withWarnings (warningsIn other u' before ++
        (Error.invalidDeclaration added.text fault.message).message :: warningsIn other u' after)
        (ofModule module u) ∧
      ofModule module u = withWarnings (warningsIn other u' before ++ warningsIn other u' after)
        (ofModule other u') := by
  obtain ⟨before, after, hsplit, hbare⟩ := hadds.exists_ofModule_eq hname
  obtain ⟨hfound, hwarnings⟩ := foundIn_and_warningsIn_eq h hbare
  -- The new attribute makes no declaration: what is found is what the others make.
  have hfoundOther : foundIn other u' (DeclaringAttribute.ofModule other) =
      foundIn module u (DeclaringAttribute.ofModule module) := by
    rw [← hfound, hsplit, foundIn, foundIn, List.filterMap_append, List.filterMap_append]
    simp [hfault, Except.toOption]
  have hwarningsOther : warningsIn other u' (DeclaringAttribute.ofModule other) =
      warningsIn other u' before ++
        (Error.invalidDeclaration added.text fault.message).message :: warningsIn other u' after := by
    rw [hsplit, warningsIn, List.filterMap_append]
    simp [warningsIn, DeclaringAttribute.warning?, hfault]
  have hwarningsModule : warningsIn module u (DeclaringAttribute.ofModule module) =
      warningsIn other u' before ++ warningsIn other u' after := by
    rw [← hwarnings, warningsIn, List.filterMap_append]
    rfl
  refine ⟨before, after, hsplit, ?_, ?_⟩
  · rw [ofModule_eq_ofFound, ofModule_eq_ofFound, hfoundOther, hwarningsOther, hadds.assembly_eq,
      withWarnings_ofFound]
  · rw [ofModule_eq_ofFound, ofModule_eq_ofFound, hfoundOther, hwarningsModule, hadds.assembly_eq,
      withWarnings_ofFound]

/-- The declaring attributes are read one after the other, and what is found and warned of decides
the outcome. What an attribute declares, and the warning about it, are the same with any other
attributes of a module with the same types. One that makes no declaration, wherever it stands, adds
its warning to the outcome and changes nothing else. -/
theorem outcome_ofModule (module : Module) (u : Universe) :
    (∀ r, ofModule module u = r ↔ ∃ found warnings,
      Scanned module u (DeclaringAttribute.ofModule module) found warnings ∧
        Outcome module found warnings r) ∧
    ∀ other u', SameTypes module other u u' →
      (∀ d d' : DeclaringAttribute, d'.bare = d.bare →
        (∀ x, d'.Declares other u' x ↔ d.Declares module u x) ∧
          d'.warning? other u' = d.warning? module u) ∧
      ∀ added fault, module.Adds added other →
        simpleName added.custom.typeName = DeclaringAttribute.attributeName →
        added.declaration other u' = .error fault →
        ∃ before after, DeclaringAttribute.ofModule other = before ++ added :: after ∧
          ofModule other u' = withWarnings (warningsIn other u' before ++
            (Error.invalidDeclaration added.text fault.message).message ::
              warningsIn other u' after) (ofModule module u) ∧
          ofModule module u = withWarnings (warningsIn other u' before ++
            warningsIn other u' after) (ofModule other u') := by
  have houtcome := outcome_ofFound module
    (foundIn module u (DeclaringAttribute.ofModule module))
    (warningsIn module u (DeclaringAttribute.ofModule module))
  rw [← ofModule_eq_ofFound] at houtcome
  refine ⟨fun r => ⟨?_, ?_⟩, fun other u' h => ⟨fun d d' hd => ⟨fun x => ?_, h.warning?_eq hd⟩,
    fun added fault hadds hname hfault => ofModule_of_adds h hadds hname hfault⟩⟩
  · rintro rfl
    exact ⟨_, _, scanned module u _, houtcome⟩
  · rintro ⟨found, warnings, hscanned, hr⟩
    obtain ⟨rfl, rfl⟩ := eq_of_scanned hscanned
    exact eq_of_outcome houtcome hr
  · rw [← DeclaringAttribute.declaration_eq_ok_iff, ← DeclaringAttribute.declaration_eq_ok_iff,
      h.declaration_eq hd]

open Analysis (attributedClass moduleOf pluginAttribute)

/-- A class that declares itself a file system, after some attributes. -/
def declaringClass (attributes : List CustomAttribute) : TypeDef :=
  attributedClass "Fs" (some "Sdk.FsPlugin")
    (attributes ++ [pluginAttribute [.string (some "FileSystem")]])

/-- A module that declares the class too, with the kind in other letters. -/
def declaringModule (attributes : List CustomAttribute) : Module :=
  { moduleOf "Sample" [declaringClass attributes] with
    attributes := [pluginAttribute [.string (some " filesystem"), .type "Fs"]] }

/-- An attribute that declares a class which the module does not have. -/
def strayAttribute : CustomAttribute :=
  pluginAttribute [.string (some "FileSystem"), .string (some "Missing")]

/-- The warning about the attribute on the class. -/
def strayWarning : String :=
  "invalid plugin declaration `PluginDefinitionAttribute(\"FileSystem\", \"Missing\") on Fs`: " ++
    "class `Missing` is not defined in the module"

/-- Two declarations of one class are one, and another one that cannot be used adds its warning. -/
theorem outcome_ofModule_declaringModule :
    ofModule (declaringModule []) (.ofModules (declaringModule []) []) =
        .ok ⟨[⟨.fileSystem, "Fs"⟩], ⟨"Sample", none⟩, []⟩ ∧
      (declaringModule []).Adds ⟨strayAttribute, some (declaringClass [strayAttribute])⟩
        (declaringModule [strayAttribute]) ∧
      ∃ earlier later, ofModule (declaringModule [strayAttribute])
          (.ofModules (declaringModule [strayAttribute]) []) =
        .ok ⟨[⟨.fileSystem, "Fs"⟩], ⟨"Sample", none⟩, earlier ++ strayWarning :: later⟩ := by
  have hplain : ofModule (declaringModule []) (.ofModules (declaringModule []) []) =
      .ok ⟨[⟨.fileSystem, "Fs"⟩], ⟨"Sample", none⟩, []⟩ := by
    decide +kernel
  have hadds : (declaringModule []).Adds ⟨strayAttribute, some (declaringClass [strayAttribute])⟩
      (declaringModule [strayAttribute]) :=
    @Module.Adds.toType _ [] [] (declaringClass []) [] (declaringClass []).attributes
      strayAttribute rfl rfl
  have hfault : DeclaringAttribute.declaration (declaringModule [strayAttribute])
      (.ofModules (declaringModule [strayAttribute]) [])
      ⟨strayAttribute, some (declaringClass [strayAttribute])⟩ =
      .error (.undefinedClass "Missing") := by
    decide +kernel
  obtain ⟨before, after, -, hstray, -⟩ := (outcome_ofModule _ _).2 _ _
    (.ofModules hadds.bareTypes_eq []) |>.2 _ _ hadds (by decide +kernel) hfault
  have hmessage : (Error.invalidDeclaration
      (DeclaringAttribute.text ⟨strayAttribute, some (declaringClass [strayAttribute])⟩)
      (DeclarationFault.undefinedClass "Missing").message).message = strayWarning := by
    decide +kernel
  rw [hplain, hmessage] at hstray
  exact ⟨hplain, hadds, _, _, hstray⟩

end Declarations

end PluginBuild
