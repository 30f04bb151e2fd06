import PluginBuild.Package.Build
import PluginBuild.Proofs.Build.Ending
/-!
# What is packed and published

Entries are only added to a package, so the first entry stays that of the first native module
(`exists_entries_eq`): it is named for the module and holds what its file holds. A package that has
been built is read from its file, and what is published is read where it is published.
-/

namespace PluginBuild.Package

open Files (Path Store Content Entry)

namespace Contents

variable {files : Store} {c c' : Contents}

/-- Of what has been packed and warned of, nothing is taken back. -/
structure Extends (c c' : Contents) : Prop where
  entries : c.entries <+: c'.entries
  warnings : c.warnings <+: c'.warnings

theorem Extends.refl (c : Contents) : Extends c c := ⟨List.prefix_refl _, List.prefix_refl _⟩

theorem Extends.trans {c'' : Contents} (h : Extends c c') (h' : Extends c' c'') : Extends c c'' :=
  ⟨h.entries.trans h'.entries, h.warnings.trans h'.warnings⟩

theorem extends_warn (c : Contents) (warning : String) : Extends c (c.warn warning) :=
  ⟨List.prefix_refl _, List.prefix_append _ _⟩

theorem extends_add (c : Contents) (entry : Entry) : Extends c (c.add entry) := by
  unfold add
  by_cases h : c.hasName entry.name
  · rw [if_pos h]
    exact extends_warn c _
  · rw [if_neg h]
    exact ⟨List.prefix_append _ _, List.prefix_refl _⟩

/-- A candidate with a warning is passed over if it is missing. All others are read. -/
theorem addCandidate_eq_ok_iff {candidate : Candidate} :
    c.addCandidate files candidate = .ok c' ↔
      (∃ warning, candidate.warning = some warning ∧ files.contains candidate.path = false ∧
        c' = c.warn warning) ∨
      ((candidate.warning = none ∨ files.contains candidate.path = true) ∧
        ∃ name content, candidate.name = some name ∧ files.read candidate.path = .ok content ∧
          c' = c.add ⟨name, content.toBytes⟩) := by
  unfold addCandidate
  rcases hw : candidate.warning with _ | warning <;>
    rcases hc : files.contains candidate.path with _ | _ <;>
    rcases hn : candidate.name with _ | name <;>
    rcases hr : files.read candidate.path with _ | content <;>
    simp [eq_comm]

theorem extends_addCandidate {candidate : Candidate}
    (h : c.addCandidate files candidate = .ok c') : Extends c c' := by
  rcases addCandidate_eq_ok_iff.1 h with ⟨warning, -, -, rfl⟩ | ⟨-, name, content, -, -, rfl⟩
  · exact extends_warn c warning
  · exact extends_add c _

/-- What is packed of some candidates is packed of the first one and then of the others. -/
theorem foldlM_cons_eq_ok_iff {candidate : Candidate} {candidates : List Candidate} :
    (candidate :: candidates).foldlM (addCandidate files) c = .ok c' ↔
      ∃ next, c.addCandidate files candidate = .ok next ∧
        candidates.foldlM (addCandidate files) next = .ok c' := by
  rw [List.foldlM_cons]
  rcases c.addCandidate files candidate with _ | next <;> simp [bind, Except.bind]

theorem extends_foldlM {candidates : List Candidate}
    (h : candidates.foldlM (addCandidate files) c = .ok c') : Extends c c' := by
  induction candidates generalizing c with
  | nil =>
    cases h
    exact .refl _
  | cons candidate candidates ih =>
    obtain ⟨next, hnext, hrest⟩ := foldlM_cons_eq_ok_iff.1 h
    exact (extends_addCandidate hnext).trans (ih hrest)

theorem extends_addManifest (c : Contents) (manifest : Manifest) (file : String) :
    Extends c (c.addManifest manifest file) := by
  unfold addManifest
  split_ifs
  · exact (extends_warn c _).trans (extends_add _ _)
  · exact extends_add c _

/-- A candidate without a warning is read, and is the first entry of an empty package. -/
theorem addCandidate_empty {candidate : Candidate} {name : String}
    (hwarning : candidate.warning = none) (hname : candidate.name = some name)
    (h : addCandidate files .empty candidate = .ok c) :
    ∃ content, files.read candidate.path = .ok content ∧
      c.entries = [⟨name, content.toBytes⟩] := by
  rcases addCandidate_eq_ok_iff.1 h with ⟨_, hsome, -⟩ | ⟨-, name', content, hname', hread, rfl⟩
  · rw [hwarning] at hsome
    cases hsome
  · obtain rfl := Option.some.inj (hname.symm.trans hname')
    exact ⟨content, hread, rfl⟩

end Contents

theorem Inputs.head?_modules_of_primary {inputs : Inputs} {files : Store} {primary : NativeModule}
    (h : inputs.primary files = .ok primary) : inputs.modules.head? = some primary := by
  unfold Inputs.primary at h
  rcases hmodules : inputs.modules with _ | ⟨first, others⟩
  · simp [hmodules] at h
  · simp only [hmodules] at h
    split_ifs at h
    rw [Except.ok.inj h, List.head?_cons]

theorem Inputs.contents_eq_ok_iff {inputs : Inputs} {sdk file : String} {files : Store}
    {contents : Contents} :
    inputs.contents sdk file files = .ok contents ↔
      ∃ packed, (inputs.candidates sdk).foldlM (Contents.addCandidate files) .empty = .ok packed ∧
        contents = packed.addManifest inputs.manifest file := by
  unfold Inputs.contents
  rcases (inputs.candidates sdk).foldlM (Contents.addCandidate files) .empty with _ | packed <;>
    simp [bind, Except.bind, pure, Except.pure, eq_comm]

/-- The first entry of a package is that of the first native module. -/
theorem Inputs.exists_entries_eq {inputs : Inputs} {first : NativeModule}
    {others : List NativeModule} {sdk file : String} {files : Store} {contents : Contents}
    (hmodules : inputs.modules = first :: others)
    (h : inputs.contents sdk file files = .ok contents) :
    ∃ content rest, files.read first.path = .ok content ∧
      contents.entries = ⟨inputs.moduleName first.architecture, content.toBytes⟩ :: rest := by
  obtain ⟨candidates, hcandidates⟩ : ∃ candidates, inputs.candidates sdk =
      ⟨first.path, some (inputs.moduleName first.architecture), none⟩ :: candidates := by
    simp [candidates, moduleCandidates, hmodules, List.zipIdx_cons]
  obtain ⟨packed, hpacked, rfl⟩ := Inputs.contents_eq_ok_iff.1 h
  rw [hcandidates] at hpacked
  obtain ⟨c, hfirst, hrest⟩ := Contents.foldlM_cons_eq_ok_iff.1 hpacked
  obtain ⟨content, hread, hentries⟩ := Contents.addCandidate_empty rfl rfl hfirst
  obtain ⟨rest, hentries'⟩ := ((Contents.extends_foldlM hrest).trans
    (Contents.extends_addManifest packed inputs.manifest file)).entries
  exact ⟨content, rest, hread, by rw [← hentries', hentries, List.singleton_append]⟩

section Actions

variable {files files' : Store}

theorem read_of_gives_makeParent {p q : Path} {content : Content} {u : Unit}
    (h : Gives (makeParent q) files u files') (hr : files.read p = .ok content) :
    files'.read p = .ok content := by
  unfold makeParent at h
  rcases hp : q.parent? with _ | parent
  · rw [hp] at h
    obtain ⟨-, rfl⟩ := Gives.pure_iff.1 h
    exact hr
  · rw [hp] at h
    exact Gives.read_makeDirectories h hr

theorem endsIn_makeParent {P : Store → Prop} {q : Path} (h : P files)
    (hmade : ∀ parent, P (files.makeDirectories parent).2) : EndsIn P (makeParent q) files := by
  unfold makeParent
  split
  · exact .makeDirectories h (hmade _)
  · exact .pure h

/-- The archive has been begun: the directory for it is made and it has no entries yet. -/
def Begins (archive : Path) (files begun : Store) : Prop :=
  ∃ made, Gives (makeParent archive) files () made ∧
    made.write archive (.archive ⟨[], false⟩) = .ok begun

/-- A package that is built holds the contents of its inputs, which are read when the archive has
been begun. -/
theorem exists_of_gives_build {sdk : String} {inputs : Inputs} {archive : Path} {report : Report}
    (h : Gives (build sdk inputs archive) files report files') :
    ∃ primary begun contents, inputs.modules.head? = some primary ∧ Begins archive files begun ∧
      inputs.contents sdk (inputs.moduleName primary.architecture) begun = .ok contents ∧
      files'.read archive = .ok (.archive ⟨contents.entries, true⟩) ∧
      report = .ofContents archive contents := by
  unfold build at h
  simp only [Gives.bind_iff, Gives.get_iff, Gives.liftM_iff, Gives.change_iff,
    Gives.pure_iff] at h
  obtain ⟨_, _, ⟨rfl, rfl⟩, primary, _, ⟨hprimary, rfl⟩, _, made, hmade, _, begun, hbegun,
    _, _, ⟨rfl, rfl⟩, contents, _, ⟨hcontents, rfl⟩, _, _, hfinished, rfl, rfl⟩ := h
  exact ⟨primary, _, contents, Inputs.head?_modules_of_primary hprimary, ⟨made, hmade, hbegun⟩,
    hcontents, Store.read_write hfinished, rfl⟩

/-- What is published is read where it is published. -/
theorem read_of_gives_publish {source destination : Path} {content : Content} {u : Unit}
    (h : Gives (publish source destination) files u files') (hr : files.read source = .ok content) :
    files'.read destination = .ok content := by
  unfold publish at h
  simp only [Gives.bind_iff, Gives.query_iff, Gives.change_iff] at h
  obtain ⟨_, made, hmade, _, _, ⟨-, rfl⟩, held, _, ⟨hheld, rfl⟩, hreplace⟩ := h
  obtain rfl : held = content :=
    Except.ok.inj (hheld.symm.trans (Gives.read_makeDirectories hmade hr))
  exact Store.read_replace hreplace

end Actions

end PluginBuild.Package
