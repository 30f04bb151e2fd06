import PluginBuild.Proofs.Files.Target
import PluginBuild.Proofs.Package.Build
/-!
# What every package holds

Names of entries are given to those who come first (`Contents.FirstCome`). The first native module
comes before all others. The managed assembly comes after the native modules and the manifest comes
last, so either is passed over, with a warning, where a file before it has taken its name but for
the case of ASCII letters (`build_contains`, `exists_taken`).
-/

namespace PluginBuild.Package

open Files (Path Store Content Entry)

theorem sameName_iff {a b : String} :
    sameName a b = true ↔ Text.asciiLower a.toList = Text.asciiLower b.toList :=
  decide_eq_true_iff

/-- The candidate takes a name in a package: it is packed under the name, or in another case of it,
unless an earlier one is. -/
def Candidate.Takes (files : Store) (candidate : Candidate) (name : String) : Prop :=
  (candidate.warning = none ∨ files.contains candidate.path = true) ∧
    candidate.name.any (sameName · name) = true

namespace Contents

variable {files : Store} {c c' : Contents} {entry : Entry} {name : String}

theorem hasName_iff : c.hasName name = true ↔ ∃ e ∈ c.entries, sameName e.name name = true :=
  List.any_eq_true

theorem hasName_add : (c.add entry).hasName name = true ↔
    c.hasName name = true ∨ sameName entry.name name = true := by
  unfold add
  by_cases h : c.hasName entry.name
  · rw [if_pos h]
    refine ⟨.inl, fun hname => hname.elim id fun hsame => ?_⟩
    obtain ⟨e, he, hentry⟩ := hasName_iff.1 h
    have hlower := (sameName_iff.1 hentry).trans (sameName_iff.1 hsame)
    exact hasName_iff.2 ⟨e, he, sameName_iff.2 hlower⟩
  · rw [if_neg h]
    simp [hasName]

theorem hasName_addCandidate {candidate : Candidate} (h : c.addCandidate files candidate = .ok c') :
    c'.hasName name = true ↔ c.hasName name = true ∨ candidate.Takes files name := by
  rcases addCandidate_eq_ok_iff.1 h with
    ⟨warning, hwarning, hmissing, rfl⟩ | ⟨hthere, taken, content, htaken, -, rfl⟩
  · have hnot : ¬candidate.Takes files name := by simp [Candidate.Takes, hwarning, hmissing]
    exact ⟨.inl, fun hname => hname.elim id fun htakes => (hnot htakes).elim⟩
  · rw [hasName_add, Candidate.Takes, htaken, Option.any_some]
    exact or_congr_right (and_iff_right hthere).symm

theorem hasName_foldlM {candidates : List Candidate}
    (h : candidates.foldlM (addCandidate files) c = .ok c') :
    c'.hasName name = true ↔
      c.hasName name = true ∨ ∃ candidate ∈ candidates, candidate.Takes files name := by
  induction candidates generalizing c with
  | nil =>
    cases h
    simp
  | cons candidate candidates ih =>
    obtain ⟨next, hnext, hrest⟩ := foldlM_cons_eq_ok_iff.1 h
    rw [ih hrest, hasName_addCandidate hnext, or_assoc]
    simp only [List.mem_cons, exists_eq_or_imp]

/-- The entry is there unless one of the candidates before it has taken its name, of which there is
a warning then. -/
structure FirstCome (files : Store) (earlier : List Candidate) (entry : Entry)
    (entries : List Entry) (warnings : List String) : Prop where
  packed : (∀ candidate ∈ earlier, ¬candidate.Takes files entry.name) →
    entries.find? (·.name = entry.name) = some entry
  skipped : (∃ candidate ∈ earlier, candidate.Takes files entry.name) →
    "duplicate archive entry " ++ entry.name ++ " skipped" ∈ warnings

/-- What is added to the contents of some candidates is there unless one of them took its name. -/
theorem firstCome_add {earlier : List Candidate}
    (h : earlier.foldlM (addCandidate files) .empty = .ok c) {c' : Contents}
    (hsame : c'.entries = c.entries) (entry : Entry) :
    FirstCome files earlier entry (c'.add entry).entries (c'.add entry).warnings := by
  have htaken : c'.hasName entry.name = true ↔
      ∃ candidate ∈ earlier, candidate.Takes files entry.name := by
    rw [hasName, hsame]
    exact (hasName_foldlM h).trans (or_iff_right (by simp [hasName, empty]))
  unfold add
  refine ⟨fun hfree => ?_, fun htakes => ?_⟩
  · have hnew : ¬c'.hasName entry.name = true := by
      rw [htaken]
      rintro ⟨candidate, hcandidate, htakes⟩
      exact hfree candidate hcandidate htakes
    rw [if_neg hnew]
    have hnone : c'.entries.find? (·.name = entry.name) = none := by
      refine List.find?_eq_none.2 fun e he hname => hnew (hasName_iff.2 ⟨e, he, ?_⟩)
      rw [of_decide_eq_true hname, sameName_iff]
    rw [List.find?_append, hnone]
    simp
  · rw [if_pos (htaken.2 htakes)]
    exact List.mem_append_right _ List.mem_cons_self

theorem FirstCome.extends {earlier : List Candidate}
    (h : FirstCome files earlier entry c.entries c.warnings) (hc : Extends c c') :
    FirstCome files earlier entry c'.entries c'.warnings :=
  ⟨fun hfree => hc.entries.find?_eq_some (h.packed hfree),
    fun htakes => hc.warnings.subset (h.skipped htakes)⟩

end Contents

namespace Inputs

variable {inputs : Inputs} {sdk file : String} {files : Store} {contents : Contents}

/-- The managed assembly is packed unless a native module has taken its name. -/
theorem exists_firstCome_managed (h : inputs.contents sdk file files = .ok contents) :
    ∃ name content, inputs.managed.name? = some name ∧ files.read inputs.managed = .ok content ∧
      Contents.FirstCome files inputs.moduleCandidates ⟨name, content.toBytes⟩ contents.entries
        contents.warnings := by
  obtain ⟨packed, hpacked, rfl⟩ := contents_eq_ok_iff.1 h
  rw [candidates, List.append_assoc, List.foldlM_append] at hpacked
  rcases hmodules : inputs.moduleCandidates.foldlM (Contents.addCandidate files) .empty with _ | c
  · rw [hmodules] at hpacked
    cases hpacked
  rw [hmodules] at hpacked
  obtain ⟨next, hnext, hrest⟩ := Contents.foldlM_cons_eq_ok_iff.1 hpacked
  rcases Contents.addCandidate_eq_ok_iff.1 hnext with
    ⟨_, hwarning, -⟩ | ⟨-, name, content, hname, hread, rfl⟩
  · cases hwarning
  · refine ⟨name, content, hname, hread, ?_⟩
    exact (Contents.firstCome_add hmodules rfl _).extends
      ((Contents.extends_foldlM hrest).trans (Contents.extends_addManifest _ _ _))

/-- The manifest is packed unless a file has taken its name. -/
theorem firstCome_manifest (h : inputs.contents sdk file files = .ok contents) :
    Contents.FirstCome files (inputs.candidates sdk)
      ⟨Manifest.fileName, Text.encode (inputs.manifest.text file).toList⟩ contents.entries
      contents.warnings := by
  obtain ⟨packed, hpacked, rfl⟩ := contents_eq_ok_iff.1 h
  refine Contents.firstCome_add hpacked ?_ _
  split <;> rfl

end Inputs

section Build

variable {sdk : String} {inputs : Inputs} {archive : Path} {report : Report} {files files' : Store}

/-- Beginning an archive changes no other file. -/
theorem Begins.read {begun : Store} (h : Begins archive files begun) {p : Path} {content : Content}
    (hread : files.read p = .ok content) (hp : files.target p ≠ files.target archive) :
    begun.read p = .ok content := by
  obtain ⟨made, hmade, hbegun⟩ := h
  have hmoved := read_of_gives_makeParent hmade hread
  refine Store.read_write_of_locate_ne hbegun hmoved fun heq => hp ?_
  have hplace : made.workingDirectory = files.workingDirectory :=
    EndsIn.of_gives (P := fun s => s.workingDirectory = files.workingDirectory)
      (endsIn_makeParent rfl fun q => (Store.agreesOn_makeDirectories (fun _ => False) files q).1)
      hmade
  obtain ⟨location, executable, hl, -⟩ := Store.read_eq_ok_iff.1 hmoved
  rw [← Store.target_congr hplace p, ← Store.target_congr hplace archive,
    ← Store.eq_target_of_locate hl, ← Store.eq_target_of_locate (heq.symm.trans hl)]

/-- A package that has been built is finished. It holds what the file of the first native module
holds, as the module that the manifest states. It holds the managed assembly, unless a native module
has taken the name, and the manifest, unless any file has. The files are read once the archive has
been begun, which changes no other file. -/
theorem build_contains (h : Gives (build sdk inputs archive) files report files') :
    ∃ primary begun entries, inputs.modules.head? = some primary ∧
      Begins archive files begun ∧
      (∀ p content, files.read p = .ok content → files.target p ≠ files.target archive →
        begun.read p = .ok content) ∧
      files'.read archive = .ok (.archive ⟨entries, true⟩) ∧
      (∃ content, begun.read primary.path = .ok content ∧
        entries.find? (·.name = inputs.moduleName primary.architecture) =
          some ⟨inputs.moduleName primary.architecture, content.toBytes⟩) ∧
      (∃ name content, inputs.managed.name? = some name ∧
        begun.read inputs.managed = .ok content ∧
        Contents.FirstCome begun inputs.moduleCandidates ⟨name, content.toBytes⟩ entries
          report.warnings) ∧
      Contents.FirstCome begun (inputs.candidates sdk)
        ⟨Manifest.fileName, Text.encode
          (inputs.manifest.text (inputs.moduleName primary.architecture)).toList⟩ entries
        report.warnings := by
  obtain ⟨primary, begun, contents, hprimary, hbegins, hcontents, hread, rfl⟩ :=
    exists_of_gives_build h
  refine ⟨primary, begun, contents.entries, hprimary, hbegins, fun p content => hbegins.read, hread,
    ?_, Inputs.exists_firstCome_managed hcontents, Inputs.firstCome_manifest hcontents⟩
  obtain ⟨others, hmodules⟩ := List.head?_eq_some_iff.1 hprimary
  obtain ⟨content, rest, hheld, hentries⟩ := Inputs.exists_entries_eq hmodules hcontents
  refine ⟨content, hheld, ?_⟩
  rw [hentries]
  exact List.find?_cons_of_pos (decide_eq_true rfl)

end Build

/-! ## A sample -/

/-- A store with a native module, two assemblies and another file. -/
def sampleFiles : Store :=
  { workingDirectory := []
    nodes :=
      [(["lib"], .directory), (["native.bin"], .file (.bytes [1]) false),
        (["Sample.dll"], .file (.bytes [2]) false), (["Sample.WFX"], .file (.bytes [2]) false),
        (["lib", "pluginst.inf"], .file (.bytes [3]) false)] }

/-- The package of one native module with a managed assembly and references. -/
def sampleInputs (managed : Path) (references : List Path) : Inputs :=
  { modules := [⟨.x86, ⟨"native.bin"⟩⟩]
    managed, references
    manifest := ⟨.fileSystem, "Sample", "A sample", "1.0", none⟩ }

/-- The entry of a name in the archive of the sample. -/
def sampleHeld? (files : Store) (name : String) : Option Entry :=
  match files.read ⟨"Sample.zip"⟩ with
  | .ok (.archive archive) => archive.entries.find? (·.name = name)
  | _ => none

theorem sampleHeld?_eq {files : Store} {entries : List Entry}
    (h : files.read ⟨"Sample.zip"⟩ = .ok (.archive ⟨entries, true⟩)) (name : String) :
    sampleHeld? files name = entries.find? (·.name = name) := by
  rw [sampleHeld?, h]

/-- Where no name is taken, all of the package is there. -/
theorem build_contains_sample :
    ∃ report after,
      Gives (build "Plugins" (sampleInputs ⟨"Sample.dll"⟩ []) ⟨"Sample.zip"⟩) sampleFiles report
        after ∧
      sampleHeld? after "Sample.wfx" = some ⟨"Sample.wfx", [1]⟩ ∧
      sampleHeld? after "Sample.dll" = some ⟨"Sample.dll", [2]⟩ ∧
      sampleHeld? after "pluginst.inf" = some ⟨"pluginst.inf", Text.encode
        ((sampleInputs ⟨"Sample.dll"⟩ []).manifest.text "Sample.wfx").toList⟩ := by
  obtain ⟨report, after, h, -⟩ := Gives.exists_of_succeeds
    (x := build "Plugins" (sampleInputs ⟨"Sample.dll"⟩ []) ⟨"Sample.zip"⟩) (s := sampleFiles)
    (fun _ _ => true) (by decide +kernel)
  obtain ⟨primary, begun, entries, hprimary, -, hkept, hread, ⟨content, hheld, hfirst⟩,
    ⟨name, content', hname, hheld', hmanaged⟩, hmanifest⟩ := build_contains h
  obtain rfl : NativeModule.mk .x86 ⟨"native.bin"⟩ = primary := Option.some.inj hprimary
  obtain rfl : "Sample.dll" = name := Option.some.inj hname
  have hmodule : begun.read ⟨"native.bin"⟩ = .ok (.bytes [1]) := hkept _ _ rfl (by decide)
  have hassembly : begun.read ⟨"Sample.dll"⟩ = .ok (.bytes [2]) := hkept _ _ rfl (by decide)
  obtain rfl := Except.ok.inj (hheld.symm.trans hmodule)
  obtain rfl := Except.ok.inj (hheld'.symm.trans hassembly)
  have hfree : ∀ candidate ∈ (sampleInputs ⟨"Sample.dll"⟩ []).candidates "Plugins",
      candidate.name.any (sameName · "pluginst.inf") = false := by decide +kernel
  have hfree' : ∀ candidate ∈ (sampleInputs ⟨"Sample.dll"⟩ []).moduleCandidates,
      candidate.name.any (sameName · "Sample.dll") = false := by decide +kernel
  refine ⟨report, after, h, ?_, ?_, ?_⟩
  · exact (sampleHeld?_eq hread _).trans hfirst
  · refine (sampleHeld?_eq hread _).trans (hmanaged.packed fun candidate hcandidate htakes => ?_)
    exact Bool.false_ne_true ((hfree' candidate hcandidate).symm.trans htakes.2)
  · refine (sampleHeld?_eq hread _).trans (hmanifest.packed fun candidate hcandidate htakes => ?_)
    exact Bool.false_ne_true ((hfree candidate hcandidate).symm.trans htakes.2)

/-- A managed assembly with the name of the native module is not packed, and a reference with the
name of the manifest is packed in the place of the manifest. -/
theorem exists_taken :
    ∃ inputs report after,
      Gives (build "Plugins" inputs ⟨"Sample.zip"⟩) sampleFiles report after ∧
      inputs.managed.name? = some "Sample.WFX" ∧ sampleHeld? after "Sample.WFX" = none ∧
      sampleHeld? after "pluginst.inf" = some ⟨"pluginst.inf", [3]⟩ ∧
      Text.encode (inputs.manifest.text "Sample.wfx").toList ≠ [3] := by
  obtain ⟨report, after, h, hcheck⟩ := Gives.exists_of_succeeds
    (x := build "Plugins" (sampleInputs ⟨"Sample.WFX"⟩ [⟨"lib/pluginst.inf"⟩]) ⟨"Sample.zip"⟩)
    (s := sampleFiles)
    (fun _ after => sampleHeld? after "Sample.WFX" = none &&
      sampleHeld? after "pluginst.inf" = some ⟨"pluginst.inf", [3]⟩) (by decide +kernel)
  obtain ⟨hmanaged, hmanifest⟩ := Bool.and_eq_true_iff.1 hcheck
  exact ⟨_, report, after, h, rfl, of_decide_eq_true hmanaged, of_decide_eq_true hmanifest,
    by decide +kernel⟩

end PluginBuild.Package
