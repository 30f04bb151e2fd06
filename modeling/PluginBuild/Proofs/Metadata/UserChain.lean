import PluginBuild.Proofs.Metadata.Universe
/-!
# The user part of a hierarchy

The types of a user module are in sight with and without the modules that it refers to
(`get?_ofModules_of_user`). Where the base types of a user type are the user's up to one that is not
(`UserChain`), both walks go along the same types, and the one without references ends there
(`UserChain.ancestry_eq`, `UserChain.ancestry_ofUser`).
-/

namespace PluginBuild.Metadata.Universe

variable {user : Module} {references : List Module} {name : String}

/-- The types of a user module alone. -/
def ofUser (user : Module) : Universe := ofModules user []

theorem ofModules_eq (user : Module) (references : List Module) :
    ofModules user references = ⟨(ofUser user).types ++
      ((references.flatMap Module.types).reverse.map (⟨·, .reference⟩))⟩ := by
  simp [ofUser, ofModules]

theorem origin_of_mem_ofUser {entry : LoadedType} (h : entry ∈ (ofUser user).types) :
    entry.origin = .user := by
  simp only [ofUser, ofModules, List.flatMap_nil, List.reverse_nil, List.map_nil,
    List.append_nil] at h
  obtain ⟨type, -, rfl⟩ := List.mem_map.1 h
  rfl

/-- The user's types are in sight as they are without the references. -/
theorem get?_ofModules_of_user {type : TypeDef} (h : (ofUser user).get? name = some type) :
    (ofModules user references).get? name = some type := by
  obtain ⟨entry, hfind, rfl⟩ := Option.map_eq_some_iff.1 h
  rw [get?, find?, ofModules_eq, List.find?_append, ← find?, hfind]
  rfl

/-- The user's types are those that are in sight without the references. -/
theorem isUser_ofModules (user : Module) (references : List Module) (name : String) :
    (ofModules user references).isUser name = ((ofUser user).get? name).isSome := by
  rw [isUser, find?, ofModules_eq, List.find?_append, ← find?, get?]
  rcases hfind : (ofUser user).find? name with _ | entry
  · rw [Option.none_or, Option.map_none, Option.isSome_none]
    rcases hreference : ((references.flatMap Module.types).reverse.map
      (LoadedType.mk · .reference)).find? (·.type.fullName = name) with _ | entry
    · rw [hreference]
      rfl
    · obtain ⟨type, -, rfl⟩ := List.mem_map.1 (List.mem_of_find?_eq_some hreference)
      rw [hreference]
      rfl
  · have horigin := origin_of_mem_ofUser (List.mem_of_find?_eq_some hfind)
    simp [horigin]

/-- The user types from a type upwards, to the one whose base type is not the user's and has the
simple name. -/
inductive UserChain (user : Module) (simple : String) : TypeDef → List TypeDef → Prop
  | last {type : TypeDef} {base : String} (hbase : type.baseType = some base)
      (houtside : (ofUser user).get? base = none) (hsimple : simpleName base = simple) :
      UserChain user simple type [type]
  | step {type next : TypeDef} {base : String} {rest : List TypeDef}
      (hbase : type.baseType = some base) (hnext : (ofUser user).get? base = some next)
      (hrest : UserChain user simple next rest) : UserChain user simple type (type :: rest)

namespace UserChain

variable {simple : String} {type : TypeDef} {chain : List TypeDef}

theorem unique (h : UserChain user simple type chain) {other : List TypeDef}
    (h' : UserChain user simple type other) : chain = other := by
  induction h generalizing other with
  | last hbase houtside =>
    cases h' with
    | last => rfl
    | step hbase' hnext =>
      cases hbase.symm.trans hbase'
      cases houtside.symm.trans hnext
  | step hbase hnext hrest ih =>
    cases h' with
    | last hbase' houtside =>
      cases hbase.symm.trans hbase'
      cases houtside.symm.trans hnext
    | step hbase' hnext' hrest' =>
      cases hbase.symm.trans hbase'
      cases hnext.symm.trans hnext'
      rw [ih hrest']

/-- Every type of a chain has a chain of its own. -/
theorem exists_of_mem (h : UserChain user simple type chain) {other : TypeDef}
    (ho : other ∈ chain) : ∃ above, UserChain user simple other above := by
  induction h with
  | @last type base hbase houtside hsimple =>
    rw [List.mem_singleton.1 ho]
    exact ⟨[type], .last hbase houtside hsimple⟩
  | @step type next base rest hbase hnext hrest ih =>
    rcases List.mem_cons.1 ho with rfl | ho
    · exact ⟨_, .step hbase hnext hrest⟩
    · exact ih ho

/-- The types of a chain are in sight. -/
theorem get?_of_mem (h : UserChain user simple type chain)
    (htype : (ofUser user).get? type.fullName = some type) {other : TypeDef} (ho : other ∈ chain) :
    (ofUser user).get? other.fullName = some other := by
  induction h with
  | last =>
    rw [List.mem_singleton.1 ho]
    exact htype
  | step hbase hnext hrest ih =>
    rcases List.mem_cons.1 ho with rfl | ho
    · exact htype
    · exact ih (by rwa [fullName_of_get? hnext]) ho

/-- A chain ends at a type whose base type is not the user's. -/
theorem exists_getLast? (h : UserChain user simple type chain) :
    ∃ root base, chain.getLast? = some root ∧ root.baseType = some base ∧
      (ofUser user).get? base = none ∧ simpleName base = simple := by
  induction h with
  | @last type base hbase houtside hsimple => exact ⟨type, base, rfl, hbase, houtside, hsimple⟩
  | @step type next base rest hbase hnext hrest ih =>
    obtain ⟨root, last, hlast, h⟩ := ih
    refine ⟨root, last, ?_, h⟩
    rw [List.getLast?_cons, hlast]
    rfl

/-- A walk upwards goes along the chain, and further only to types that are not the user's. The
types of shorter chains have not been met on the way. -/
theorem ancestryIn_eq (h : UserChain user simple type chain) {unseen : Universe}
    (hunseen : ∀ name other shorter, (ofUser user).get? name = some other →
      UserChain user simple other shorter → shorter.length < chain.length →
        unseen.get? name = some other) :
    ∃ above, ancestryIn unseen type = chain ++ above ∧
      ∀ first ∈ above.head?, unseen.get? first.fullName = some first ∧
        (ofUser user).get? first.fullName = none := by
  -- A type that has been met has a longer chain, so the next type has not been met.
  induction h generalizing unseen with
  | @last type base hbase houtside hsimple =>
    rcases ancestryIn_cases unseen type with hend | ⟨name, outside, hname, hget, hstep⟩
    · exact ⟨[], by rw [hend, List.append_nil], nofun⟩
    · cases hbase.symm.trans hname
      obtain ⟨above, habove⟩ := exists_ancestryIn_eq_cons (unseen.without base) outside
      refine ⟨outside :: above, by rw [hstep, habove]; rfl, fun first hfirst => ?_⟩
      obtain rfl : outside = first := Option.some.inj hfirst
      rw [fullName_of_get? hget]
      exact ⟨hget, houtside⟩
  | @step type next base rest hbase hnext hrest ih =>
    have hget : unseen.get? base = some next :=
      hunseen base next rest hnext hrest (Nat.lt_succ_self _)
    have hleft : ∀ name other shorter, (ofUser user).get? name = some other →
        UserChain user simple other shorter → shorter.length < rest.length →
          (unseen.without base).get? name = some other := by
      intro name other shorter hother hshorter hlength
      -- The base type itself is not one of a shorter chain.
      have hne : name ≠ base := by
        rintro rfl
        cases hnext.symm.trans hother
        rw [hshorter.unique hrest] at hlength
        exact Nat.lt_irrefl _ hlength
      rw [get?_without, if_neg hne]
      exact hunseen name other shorter hother hshorter (Nat.lt_succ_of_lt hlength)
    obtain ⟨above, habove, hfirst⟩ := ih hleft
    refine ⟨above, by rw [ancestryIn_of_get? hbase hget, habove]; rfl, fun first hmem => ?_⟩
    obtain ⟨hsight, houtside⟩ := hfirst first hmem
    exact ⟨(Within.refl unseen).without_left base _ _ hsight, houtside⟩

/-- With references in sight, the walk from a user type goes along its chain and on to types that
are not the user's. -/
theorem ancestry_eq (h : UserChain user simple type chain)
    (htype : (ofUser user).get? type.fullName = some type) (references : List Module) :
    ∃ above, (ofModules user references).ancestry type = chain ++ above ∧
      ∀ first ∈ above.head?, (ofModules user references).get? first.fullName = some first ∧
        (ofUser user).get? first.fullName = none := by
  have hleft : ∀ name other shorter, (ofUser user).get? name = some other →
      UserChain user simple other shorter → shorter.length < chain.length →
        ((ofModules user references).without type.fullName).get? name = some other := by
    intro name other shorter hother hshorter hlength
    have hne : name ≠ type.fullName := by
      rintro rfl
      cases htype.symm.trans hother
      rw [hshorter.unique h] at hlength
      exact Nat.lt_irrefl _ hlength
    rw [get?_without, if_neg hne]
    exact get?_ofModules_of_user hother
  obtain ⟨above, habove, hfirst⟩ := h.ancestryIn_eq hleft
  refine ⟨above, habove, fun first hmem => ?_⟩
  obtain ⟨hsight, houtside⟩ := hfirst first hmem
  exact ⟨(Within.refl _).without_left type.fullName _ _ hsight, houtside⟩

/-- Without references, the walk from a user type goes along its chain and ends there. -/
theorem ancestry_ofUser (h : UserChain user simple type chain)
    (htype : (ofUser user).get? type.fullName = some type) :
    (ofUser user).ancestry type = chain := by
  obtain ⟨above, habove, hfirst⟩ := h.ancestry_eq htype []
  rw [ofUser, habove]
  cases above with
  | nil => rw [List.append_nil]
  | cons first rest =>
    obtain ⟨hsight, houtside⟩ := hfirst first rfl
    cases houtside.symm.trans hsight

/-- The user part of a walk is the chain, with and without references. -/
theorem takeWhile_isUser_ancestry (h : UserChain user simple type chain)
    (htype : (ofUser user).get? type.fullName = some type) (references : List Module) :
    ((ofModules user references).ancestry type).takeWhile
      (fun base => (ofModules user references).isUser base.fullName) = chain := by
  obtain ⟨above, habove, hfirst⟩ := h.ancestry_eq htype references
  have huser : ∀ base ∈ chain, (ofModules user references).isUser base.fullName = true := by
    intro base hbase
    rw [isUser_ofModules, h.get?_of_mem htype hbase, Option.isSome_some]
  rw [habove, List.takeWhile_append_of_pos huser]
  cases above with
  | nil => rw [List.takeWhile_nil, List.append_nil]
  | cons first rest =>
    have houtside : (ofModules user references).isUser first.fullName = false := by
      rw [isUser_ofModules, (hfirst first rfl).2, Option.isSome_none]
    rw [List.takeWhile_cons, houtside]
    exact List.append_nil chain

end UserChain

end PluginBuild.Metadata.Universe
