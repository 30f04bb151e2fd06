import Mathlib.Data.List.Nodup
import PluginBuild.Plugin.Decision
/-!
# What a decision says of each export

Each name that a native module can export belongs to one member (`PluginKind.owner_unique`), so the
verdict for the name is that of its member, whatever the kinds and implemented members of the
module are (`ofImplementations_follows`).
-/

namespace PluginBuild

/-- An element that alone meets a condition is the only one a search under the condition finds. -/
theorem findSome?_filter_of_unique {α β : Type} {f : α → Option β} {p : α → Bool} {l : List α}
    {a : α} (ha : a ∈ l) (hp : p a = true) (hunique : ∀ b ∈ l, p b = true → b = a) :
    (l.filter p).findSome? f = f a := by
  have hall : ∀ b ∈ l.filter p, b = a := fun b hb =>
    hunique b (List.mem_filter.1 hb).1 (List.mem_filter.1 hb).2
  have hmem : a ∈ l.filter p := List.mem_filter.2 ⟨ha, hp⟩
  have hcount := List.eq_replicate_of_mem hall
  rw [hcount] at hmem ⊢
  have hpos : 0 < (l.filter p).length :=
    Nat.pos_of_ne_zero fun hzero => by simp [hzero] at hmem
  rw [List.findSome?_replicate_of_pos hpos]

/-- Where names are listed with what a function makes of them, a name is looked up as that. -/
theorem lookup_listed {β : Type} (f : String → β) {name : String} {names : List String}
    (h : name ∈ names) : (names.map fun n => (n, f n)).lookup name = some (f name) := by
  induction names with
  | nil => cases h
  | cons n rest ih =>
    rw [List.map_cons, List.lookup_cons]
    by_cases hn : name = n
    · simp [hn]
    · rw [beq_eq_false_iff_ne.2 hn]
      exact ih ((List.mem_cons.1 h).resolve_left hn)

namespace PluginKind

/-- The names of the exports of a module, each with the member it belongs to. -/
def exportTable (kind : PluginKind) : List (String × PluginKind × Contract) :=
  (kind.contracts.flatMap fun contract => contract.exports.map (·, kind, contract)) ++
    if kind = .fileSystem then
      content.contracts.flatMap fun contract => contract.aliases.map (·, content, contract)
    else []

/-- A member to which a name belongs that a module of a kind can export: a member of the kind by
one of its exports, or a member of content by an alias in a file system module. -/
structure Owns (kind : PluginKind) (owner : PluginKind × Contract) (name : String) : Prop where
  contract_mem : owner.2 ∈ owner.1.contracts
  name_mem : owner.1 = kind ∧ name ∈ owner.2.exports ∨
    kind = .fileSystem ∧ owner.1 = .content ∧ name ∈ owner.2.aliases

/-- The table has each name with its owners. -/
theorem mem_exportTable_iff {kind : PluginKind} {owner : PluginKind × Contract} {name : String} :
    (name, owner) ∈ kind.exportTable ↔ kind.Owns owner name := by
  obtain ⟨served, contract⟩ := owner
  rw [exportTable, List.mem_append]
  constructor
  · rintro (h | h)
    · obtain ⟨c, hc, hname⟩ := List.mem_flatMap.1 h
      obtain ⟨n, hn, heq⟩ := List.mem_map.1 hname
      cases heq
      exact ⟨hc, .inl ⟨rfl, hn⟩⟩
    · split at h
      · next hkind =>
        obtain ⟨c, hc, hname⟩ := List.mem_flatMap.1 h
        obtain ⟨n, hn, heq⟩ := List.mem_map.1 hname
        cases heq
        exact ⟨hc, .inr ⟨hkind, rfl, hn⟩⟩
      · cases h
  · rintro ⟨hmem, ⟨rfl, hname⟩ | ⟨rfl, rfl, hname⟩⟩
    · exact .inl (List.mem_flatMap.2 ⟨contract, hmem, List.mem_map_of_mem hname⟩)
    · rw [if_pos rfl]
      exact .inr (List.mem_flatMap.2 ⟨contract, hmem, List.mem_map_of_mem hname⟩)

theorem exportTable_nodup (kind : PluginKind) : (kind.exportTable.map Prod.fst).Nodup := by
  cases kind <;> decide +kernel

theorem owner_unique {kind : PluginKind} {owner other : PluginKind × Contract} {name : String}
    (h : kind.Owns owner name) (h' : kind.Owns other name) : other = owner := by
  have hpair := List.inj_on_of_nodup_map kind.exportTable_nodup (mem_exportTable_iff.2 h')
    (mem_exportTable_iff.2 h) rfl
  exact congrArg Prod.snd hpair

/-- The names that a module can export are those with an owner. -/
theorem mem_exportNames_iff {kind : PluginKind} {name : String} :
    name ∈ kind.exportNames ↔ ∃ owner, kind.Owns owner name := by
  have hnames : name ∈ kind.exportNames ↔ name ∈ kind.exportTable.map Prod.fst := by
    rw [exportNames, Text.mem_nameSet, exportTable]
    split <;> simp
  rw [hnames]
  constructor
  · intro h
    obtain ⟨⟨_, owner⟩, hentry, rfl⟩ := List.mem_map.1 h
    exact ⟨owner, mem_exportTable_iff.1 hentry⟩
  · rintro ⟨owner, howner⟩
    exact List.mem_map_of_mem (mem_exportTable_iff.2 howner)

variable {kind : PluginKind} {contract : Contract} {name : String}

/-- The reason to keep an export of the kind is that of its member. -/
theorem reason?_exports (members : List ImplementedMember) (h : kind.Owns (kind, contract) name)
    (hname : name ∈ contract.exports) :
    kind.reason? Contract.exports members name = contract.reason? kind members :=
  findSome?_filter_of_unique h.contract_mem (decide_eq_true hname) fun other hother hnames => by
    have howner : kind.Owns (kind, other) name :=
      ⟨hother, .inl ⟨rfl, of_decide_eq_true hnames⟩⟩
    exact congrArg Prod.snd (owner_unique h howner)

/-- The reason to keep an alias in a file system module is that of its content member. -/
theorem reason?_aliases (members : List ImplementedMember)
    (h : fileSystem.Owns (content, contract) name) (hname : name ∈ contract.aliases) :
    content.reason? Contract.aliases members name = contract.reason? content members :=
  findSome?_filter_of_unique h.contract_mem (decide_eq_true hname) fun other hother hnames => by
    have howner : fileSystem.Owns (content, other) name :=
      ⟨hother, .inr ⟨rfl, rfl, of_decide_eq_true hnames⟩⟩
    exact congrArg Prod.snd (owner_unique h howner)

/-- What a content member owns by an alias is no export of a file system member. -/
theorem not_mem_exports_of_owns_content (h : fileSystem.Owns (content, contract) name) :
    ∀ other ∈ fileSystem.contracts, name ∉ other.exports := by
  intro other hother hname
  have howner : fileSystem.Owns (fileSystem, other) name := ⟨hother, .inl ⟨rfl, hname⟩⟩
  cases owner_unique h howner

/-- What a file system member owns by an export is no alias of a content member. -/
theorem not_mem_aliases_of_owns_fileSystem (h : fileSystem.Owns (fileSystem, contract) name) :
    ∀ other ∈ content.contracts, name ∉ other.aliases := by
  intro other hother hname
  have howner : fileSystem.Owns (content, other) name := ⟨hother, .inr ⟨rfl, rfl, hname⟩⟩
  cases owner_unique h howner

/-- There is no reason to keep a name that is none of the names of members. -/
theorem reason?_eq_none {names : Contract → List String} (members : List ImplementedMember)
    (h : ∀ other ∈ kind.contracts, name ∉ names other) :
    kind.reason? names members name = none := by
  have hnone : kind.contracts.filter (name ∈ names ·) = [] :=
    List.filter_eq_nil_iff.2 fun other hother => by simpa using h other hother
  rw [reason?, hnone]
  rfl

end PluginKind

/-- The verdict for the exports of a member of a kind. A kind that is not declared keeps none. -/
def Contract.verdict (implementations : Implementations) (kind : PluginKind)
    (contract : Contract) : Verdict :=
  match implementations kind with
  | none => .strip
  | some members =>
    if contract.obligation = .mandatory then .retain .mandatory
    else if contract.obligation = .base then .retain .base
    else if ∃ member ∈ members, member.signature = kind.signature contract.member then
      .retain .implemented
    else .strip

/-- The verdict of a declared kind is that of the reason to keep the member. -/
theorem Contract.verdict_of_some {implementations : Implementations} {kind : PluginKind}
    {members : List ImplementedMember} (h : implementations kind = some members)
    (contract : Contract) :
    contract.verdict implementations kind = .ofReason (contract.reason? kind members) := by
  rw [verdict, h, reason?]
  cases contract.obligation with
  | mandatory => rfl
  | base => rfl
  | optional =>
    by_cases hmember : ∃ member ∈ members, member.signature = kind.signature contract.member
    · simp [hmember, Verdict.ofReason, List.any_eq_true]
    · simp [hmember, Verdict.ofReason, List.any_eq_true]

/-- The verdict depends on the members of the kind alone. -/
theorem Contract.verdict_congr {m m' : Implementations} {kind : PluginKind} (h : m kind = m' kind)
    (contract : Contract) : contract.verdict m kind = contract.verdict m' kind := by
  rw [verdict, verdict, h]

namespace Implementations

/-- Each set of members is within the one of the other map, for the same kinds. -/
def Within (m larger : Implementations) : Prop :=
  ∀ kind, Option.Rel (fun members more => members ⊆ more) (m kind) (larger kind)

/-- The map with the members of one kind alone. -/
def only (m : Implementations) (kind : PluginKind) : Implementations :=
  fun other => if other = kind then m kind else none

variable {m larger : Implementations}

theorem mem_kinds_iff {kind : PluginKind} : kind ∈ m.kinds ↔ (m kind).isSome := by
  rw [kinds, List.mem_filter]
  cases kind <;> simp [PluginKind.all]

theorem kinds_pairwise (m : Implementations) : m.kinds.Pairwise fun a b => a.rank < b.rank :=
  List.Pairwise.filter _ (by decide)

/-- A kind has a set in both maps or in neither. -/
theorem Within.cases (h : m.Within larger) (kind : PluginKind) :
    m kind = none ∧ larger kind = none ∨
      ∃ members more, m kind = some members ∧ larger kind = some more ∧ members ⊆ more := by
  have hrel := h kind
  generalize m kind = a at hrel ⊢
  generalize larger kind = b at hrel ⊢
  cases hrel with
  | none => exact .inl ⟨rfl, rfl⟩
  | some hsubset => exact .inr ⟨_, _, rfl, rfl, hsubset⟩

/-- Maps within one another have the same kinds. -/
theorem Within.kinds_eq (h : m.Within larger) : larger.kinds = m.kinds := by
  rw [kinds, kinds]
  refine List.filter_congr fun kind _ => ?_
  rcases h.cases kind with ⟨hm, hlarger⟩ | ⟨members, more, hm, hlarger, -⟩
  · rw [hm, hlarger]
  · rw [hm, hlarger]
    rfl

/-- What is kept stays kept, for the same reason, where more members are implemented. -/
theorem Within.verdict_eq_retain (h : m.Within larger) {kind : PluginKind} {contract : Contract}
    {reason : Reason} (hretain : contract.verdict m kind = .retain reason) :
    contract.verdict larger kind = .retain reason := by
  rw [Contract.verdict] at hretain ⊢
  rcases h.cases kind with ⟨hm, -⟩ | ⟨members, more, hm, hlarger, hsubset⟩
  · rw [hm] at hretain
    cases hretain
  rw [hm] at hretain
  rw [hlarger]
  dsimp only at hretain ⊢
  split at hretain
  · next hmandatory => rwa [if_pos hmandatory]
  next hmandatory =>
  split at hretain
  · next hbase => rwa [if_neg hmandatory, if_pos hbase]
  next hbase =>
  split at hretain
  · next hmember =>
    obtain ⟨member, hmem, hsignature⟩ := hmember
    rwa [if_neg hmandatory, if_neg hbase, if_pos ⟨member, hsubset hmem, hsignature⟩]
  · cases hretain

end Implementations

namespace Decision

/-- A decision has a verdict for each name that its module can export, in order, and it is the
verdict of the one member to which the name belongs. -/
structure Follows (d : Decision) (m : Implementations) : Prop where
  names_eq : d.verdicts.map Prod.fst = d.kind.exportNames
  verdict_eq : ∀ name ∈ d.kind.exportNames, ∃ kind contract,
    d.kind.Owns (kind, contract) name ∧
      (∀ other, d.kind.Owns other name → other = (kind, contract)) ∧
      d.verdict? name = some (contract.verdict m kind)

variable {m : Implementations} {d : Decision}

/-- A name that the module cannot export has no verdict. -/
theorem Follows.verdict?_eq_none (h : d.Follows m) {name : String}
    (hname : name ∉ d.kind.exportNames) : d.verdict? name = none := by
  rw [verdict?, List.lookup_eq_none_iff]
  rintro entry hentry
  rw [bne_iff_ne]
  rintro rfl
  exact hname (h.names_eq ▸ List.mem_map_of_mem hentry)

/-- Decisions for one kind that follow from maps with the same verdict for the owner of a name
have the same verdict for the name. -/
theorem Follows.verdict?_eq {d' : Decision} {m' : Implementations} (h : d.Follows m)
    (h' : d'.Follows m') (hkind : d'.kind = d.kind) {name : String}
    (hsame : ∀ owner, d.kind.Owns owner name →
      owner.2.verdict m' owner.1 = owner.2.verdict m owner.1) :
    d'.verdict? name = d.verdict? name := by
  by_cases hname : name ∈ d.kind.exportNames
  · obtain ⟨kind, contract, howner, -, hverdict⟩ := h.verdict_eq name hname
    obtain ⟨kind', contract', howner', -, hverdict'⟩ := h'.verdict_eq name (hkind ▸ hname)
    rw [hkind] at howner'
    cases PluginKind.owner_unique howner howner'
    rw [hverdict, hverdict', hsame _ howner]
  · rw [h.verdict?_eq_none hname, h'.verdict?_eq_none (hkind ▸ hname)]

/-- A decision has the names and verdicts that it is made of. -/
theorem follows_of_map {merged : Bool} {kind : PluginKind} {verdict : String → Verdict}
    (h : ∀ owner name, kind.Owns owner name → verdict name = owner.2.verdict m owner.1) :
    Follows ⟨kind, merged, kind.exportNames.map fun name => (name, verdict name)⟩ m where
  names_eq := by simp [Function.comp_def]
  verdict_eq := by
    intro name hname
    obtain ⟨⟨served, contract⟩, howner⟩ := PluginKind.mem_exportNames_iff.1 hname
    refine ⟨served, contract, howner, fun other => PluginKind.owner_unique howner, ?_⟩
    rw [verdict?, lookup_listed verdict hname, h _ _ howner]

/-- The decision for one kind follows from the members of that kind. -/
theorem ofKind_follows {kind : PluginKind} {members : List ImplementedMember}
    (hkind : m kind = some members) (hcontent : kind = .fileSystem → m .content = none) :
    (ofKind kind members).Follows m := by
  refine follows_of_map fun owner name howner => ?_
  obtain ⟨served, contract⟩ := owner
  rcases howner.name_mem with ⟨hserved, hname⟩ | ⟨hsystem, hserved, hname⟩
  · dsimp only at hserved hname
    subst hserved
    rw [PluginKind.reason?_exports members howner hname, contract.verdict_of_some hkind]
  · -- An alias is no export of a file system, and no content is declared that would keep it.
    dsimp only at hserved hname
    subst hserved hsystem
    have hnone : PluginKind.fileSystem.reason? Contract.exports members name = none :=
      PluginKind.reason?_eq_none members (PluginKind.not_mem_exports_of_owns_content howner)
    rw [hnone, Contract.verdict, hcontent rfl]
    rfl

/-- The decision for file system and content together follows from the members of both. -/
theorem ofMerged_follows {system content : List ImplementedMember}
    (hsystem : m .fileSystem = some system) (hcontent : m .content = some content) :
    (ofMerged system content).Follows m := by
  refine follows_of_map fun owner name howner => ?_
  obtain ⟨served, contract⟩ := owner
  rcases howner.name_mem with ⟨hserved, hname⟩ | ⟨-, hserved, hname⟩
  · dsimp only at hserved hname
    subst hserved
    have hnone : PluginKind.content.reason? Contract.aliases content name = none :=
      PluginKind.reason?_eq_none content (PluginKind.not_mem_aliases_of_owns_fileSystem howner)
    rw [hnone, Option.none_or, PluginKind.reason?_exports system howner hname,
      contract.verdict_of_some hsystem]
  · dsimp only at hserved hname
    subst hserved
    have hnone : PluginKind.fileSystem.reason? Contract.exports system name = none :=
      PluginKind.reason?_eq_none system (PluginKind.not_mem_exports_of_owns_content howner)
    rw [hnone, Option.or_none, PluginKind.reason?_aliases content howner hname,
      contract.verdict_of_some hcontent]

/-- The kind of module that serves the declared kinds, and whether it takes content in. -/
def Serves (d : Decision) (kinds : List PluginKind) : Prop :=
  d.merged = false ∧ kinds = [d.kind] ∨
    d.merged = true ∧ d.kind = .fileSystem ∧ kinds = [.fileSystem, .content]

/-- The kind of module is known by the kinds it serves. -/
theorem Serves.kind_eq {d' : Decision} {kinds : List PluginKind} (h : d.Serves kinds)
    (h' : d'.Serves kinds) : d'.kind = d.kind := by
  rcases h with ⟨-, rfl⟩ | ⟨-, hkind, rfl⟩
  · rcases h' with ⟨-, heq⟩ | ⟨-, -, heq⟩
    · exact (List.singleton_inj.1 heq).symm
    · simp at heq
  · rcases h' with ⟨-, heq⟩ | ⟨-, hkind', -⟩
    · simp at heq
    · rw [hkind, hkind']

theorem exists_members {kind : PluginKind} (h : kind ∈ m.kinds) :
    ∃ members, m kind = some members :=
  Option.isSome_iff_exists.1 (Implementations.mem_kinds_iff.1 h)

theorem members_eq_none {kind : PluginKind} (h : kind ∉ m.kinds) : m kind = none := by
  simpa using mt Implementations.mem_kinds_iff.2 h

theorem ofImplementations_of_nil (module : String) (h : m.kinds = []) :
    ofImplementations module m = .error (.noPluginFound module []) := by
  rw [ofImplementations, h]

/-- One kind gets the decision for it. -/
theorem ofImplementations_of_single (module : String) {kind : PluginKind} (h : m.kinds = [kind]) :
    ∃ d, ofImplementations module m = .ok d ∧ d.Serves m.kinds ∧ d.Follows m := by
  obtain ⟨members, hmembers⟩ := exists_members (m := m) (h ▸ List.mem_singleton_self kind)
  refine ⟨ofKind kind members, ?_, .inl ⟨rfl, h⟩, ofKind_follows hmembers ?_⟩
  · rw [ofImplementations, h]
    simp [hmembers]
  · rintro rfl
    exact members_eq_none (by simp [h])

/-- File system and content get the merged decision. -/
theorem ofImplementations_of_merged (module : String) (h : m.kinds = [.fileSystem, .content]) :
    ∃ d, ofImplementations module m = .ok d ∧ d.Serves m.kinds ∧ d.Follows m := by
  obtain ⟨system, hsystem⟩ := exists_members (m := m) (h ▸ List.mem_cons_self)
  obtain ⟨content, hcontent⟩ :=
    exists_members (m := m) (h ▸ List.mem_cons_of_mem _ List.mem_cons_self)
  refine ⟨ofMerged system content, ?_, .inr ⟨rfl, rfl, h⟩, ofMerged_follows hsystem hcontent⟩
  rw [ofImplementations, h]
  simp [hsystem, hcontent]

/-- Any other kinds conflict. -/
theorem ofImplementations_of_conflict (module : String) (hlength : 2 ≤ m.kinds.length)
    (hne : m.kinds ≠ [.fileSystem, .content]) :
    ofImplementations module m = .error (.conflictingKinds m.kinds) := by
  rw [ofImplementations]
  generalize m.kinds = kinds at hlength hne
  split
  · simp at hlength
  · simp at hlength
  · exact absurd rfl hne
  · rfl

/-- The kinds are none, one or those of a merged module, or they conflict. -/
theorem kinds_cases (m : Implementations) :
    m.kinds = [] ∨ (∃ kind, m.kinds = [kind]) ∨ m.kinds = [.fileSystem, .content] ∨
      2 ≤ m.kinds.length ∧ m.kinds ≠ [.fileSystem, .content] := by
  by_cases hmerged : m.kinds = [.fileSystem, .content]
  · exact .inr (.inr (.inl hmerged))
  rcases hkinds : m.kinds with _ | ⟨kind, _ | ⟨other, rest⟩⟩
  · exact .inl rfl
  · exact .inr (.inl ⟨kind, rfl⟩)
  · exact .inr (.inr (.inr ⟨by simp, hkinds ▸ hmerged⟩))

/-- A decision serves the declared kinds and follows from their members. -/
theorem serves_and_follows {module : String} (h : ofImplementations module m = .ok d) :
    d.Serves m.kinds ∧ d.Follows m := by
  rcases kinds_cases m with hkinds | ⟨kind, hkinds⟩ | hkinds | ⟨hlength, hne⟩
  · rw [ofImplementations_of_nil module hkinds] at h
    cases h
  · obtain ⟨d', hd', hboth⟩ := ofImplementations_of_single module hkinds
    cases h.symm.trans hd'
    exact hboth
  · obtain ⟨d', hd', hboth⟩ := ofImplementations_of_merged module hkinds
    cases h.symm.trans hd'
    exact hboth
  · rw [ofImplementations_of_conflict module hlength hne] at h
    cases h

/-- There is a decision for any kinds but none and those that conflict. -/
theorem exists_ofImplementations (module : String) (hne : m.kinds ≠ [])
    (hserved : ¬ (2 ≤ m.kinds.length ∧ m.kinds ≠ [.fileSystem, .content])) :
    ∃ d, ofImplementations module m = .ok d := by
  rcases kinds_cases m with hkinds | ⟨kind, hkinds⟩ | hkinds | hconflict
  · exact absurd hkinds hne
  · obtain ⟨d, hd, -⟩ := ofImplementations_of_single module hkinds
    exact ⟨d, hd⟩
  · obtain ⟨d, hd, -⟩ := ofImplementations_of_merged module hkinds
    exact ⟨d, hd⟩
  · exact absurd hconflict hserved

/-- Names that are no aliases have the verdict that they have for the file system alone. -/
theorem exists_alone {module : String} (h : ofImplementations module m = .ok d)
    (hkinds : m.kinds = [.fileSystem, .content]) :
    ∃ alone, ofImplementations module (m.only .fileSystem) = .ok alone ∧
      ∀ name, (∀ contract ∈ PluginKind.content.contracts, name ∉ contract.aliases) →
        d.verdict? name = alone.verdict? name := by
  have honly : (m.only .fileSystem).kinds = [.fileSystem] := by
    obtain ⟨members, hmembers⟩ := exists_members (m := m) (hkinds ▸ List.mem_cons_self)
    simp [Implementations.kinds, Implementations.only, PluginKind.all, hmembers]
  obtain ⟨alone, halone, hserves, hfollows⟩ := ofImplementations_of_single module honly
  obtain ⟨hmerged, hboth⟩ := serves_and_follows h
  have hsystem : d.kind = .fileSystem ∧ alone.kind = .fileSystem := by
    simp_all [Serves]
  refine ⟨alone, halone, fun name hname => ?_⟩
  refine hfollows.verdict?_eq hboth (hsystem.1.trans hsystem.2.symm) fun owner howner => ?_
  rcases howner.name_mem with ⟨hkind, -⟩ | ⟨-, hcontent, halias⟩
  · refine Contract.verdict_congr ?_ owner.2
    rw [hkind, hsystem.2, Implementations.only, if_pos rfl]
  · have hmem := howner.contract_mem
    rw [hcontent] at hmem
    exact absurd halias (hname _ hmem)

/-- Where more members are implemented, every export that was kept is kept for the same reason. -/
theorem exists_larger {module : String} {larger : Implementations}
    (h : ofImplementations module m = .ok d) (hwithin : m.Within larger) :
    ∃ d', ofImplementations module larger = .ok d' ∧ ∀ name reason,
      d.verdict? name = some (.retain reason) → d'.verdict? name = some (.retain reason) := by
  obtain ⟨hserves, hfollows⟩ := serves_and_follows h
  have hkinds := hwithin.kinds_eq
  obtain ⟨d', hd'⟩ : ∃ d', ofImplementations module larger = .ok d' := by
    refine exists_ofImplementations module (fun hnil => ?_) (fun hconflict => ?_)
    · rw [ofImplementations_of_nil module (hkinds ▸ hnil)] at h
      cases h
    · rw [hkinds] at hconflict
      rw [ofImplementations_of_conflict module hconflict.1 hconflict.2] at h
      cases h
  obtain ⟨hserves', hfollows'⟩ := serves_and_follows hd'
  rw [hkinds] at hserves'
  have hkind : d'.kind = d.kind := hserves.kind_eq hserves'
  refine ⟨d', hd', fun name reason hretain => ?_⟩
  have hname : name ∈ d.kind.exportNames := by
    by_contra hnot
    rw [hfollows.verdict?_eq_none hnot] at hretain
    cases hretain
  obtain ⟨kind, contract, howner, -, hverdict⟩ := hfollows.verdict_eq name hname
  obtain ⟨kind', contract', howner', -, hverdict'⟩ := hfollows'.verdict_eq name (hkind ▸ hname)
  rw [hkind] at howner'
  cases PluginKind.owner_unique howner howner'
  rw [hverdict, Option.some_inj] at hretain
  rw [hverdict', hwithin.verdict_eq_retain hretain]

/-- There is no decision exactly for no kinds and for kinds that conflict. Any other decision has
for each export the verdict of the one member it belongs to. With content it differs from that for
the file system alone in the aliases only, and more members keep what was kept. -/
theorem ofImplementations_follows (module : String) (m : Implementations) :
    (m.kinds.Pairwise fun a b => a.rank < b.rank) ∧
    (∀ kind, kind ∈ m.kinds ↔ (m kind).isSome) ∧
    (ofImplementations module m = .error (.noPluginFound module []) ↔ m.kinds = []) ∧
    (ofImplementations module m = .error (.conflictingKinds m.kinds) ↔
      2 ≤ m.kinds.length ∧ m.kinds ≠ [.fileSystem, .content]) ∧
    (m.kinds ≠ [] → ¬ (2 ≤ m.kinds.length ∧ m.kinds ≠ [.fileSystem, .content]) →
      ∃ d, ofImplementations module m = .ok d ∧ d.Serves m.kinds ∧ d.Follows m ∧
        (m.kinds = [.fileSystem, .content] →
          ∃ alone, ofImplementations module (m.only .fileSystem) = .ok alone ∧
            ∀ name, (∀ contract ∈ PluginKind.content.contracts, name ∉ contract.aliases) →
              d.verdict? name = alone.verdict? name) ∧
        ∀ larger, m.Within larger → ∃ d', ofImplementations module larger = .ok d' ∧
          ∀ name reason, d.verdict? name = some (.retain reason) →
            d'.verdict? name = some (.retain reason)) := by
  refine ⟨m.kinds_pairwise, fun kind => Implementations.mem_kinds_iff, ⟨fun h => ?_, ?_⟩,
    ⟨fun h => ?_, fun h => ?_⟩, fun hne hserved => ?_⟩
  · by_contra hne
    by_cases hconflict : 2 ≤ m.kinds.length ∧ m.kinds ≠ [.fileSystem, .content]
    · rw [ofImplementations_of_conflict module hconflict.1 hconflict.2] at h
      cases h
    · obtain ⟨d, hd⟩ := exists_ofImplementations module hne hconflict
      rw [hd] at h
      cases h
  · exact ofImplementations_of_nil module
  · by_contra hserved
    by_cases hne : m.kinds = []
    · rw [ofImplementations_of_nil module hne] at h
      cases h
    · obtain ⟨d, hd⟩ := exists_ofImplementations module hne hserved
      rw [hd] at h
      cases h
  · exact ofImplementations_of_conflict module h.1 h.2
  · obtain ⟨d, hd⟩ := exists_ofImplementations module hne hserved
    obtain ⟨hserves, hfollows⟩ := serves_and_follows hd
    exact ⟨d, hd, hserves, hfollows, exists_alone hd, fun larger => exists_larger hd⟩

end Decision

end PluginBuild
