import PluginBuild.Proofs.Package.Required
/-!
# Every input is accounted for

One thing becomes of every candidate for a package (`Fate`): it is packed, it is missing, or an
earlier entry has its name. The entries of the package are those of the candidates that are packed,
in their order, and each of the other candidates has its warning (`build_accounts`).
-/

namespace PluginBuild.Package

open Files (Path Store Content Entry)

/-- A file that is read is there. -/
theorem contains_of_read {files : Store} {p : Path} {content : Content}
    (h : files.read p = .ok content) : files.contains p = true := by
  unfold Store.contains
  cases hfind : files.find p with
  | ok node => rfl
  | error failure =>
    rw [Store.read, hfind] at h
    cases h

/-- What becomes of a candidate for a package. -/
inductive Fate
  | packed (entry : Entry)
  /-- There is no file, of which the candidate warns. -/
  | missing (warning : String)
  /-- An earlier entry has the name. -/
  | duplicate (name : String)

namespace Fate

/-- The entry in the package. -/
def entry? : Fate → Option Entry
  | packed entry => some entry
  | missing _ => none
  | duplicate _ => none

/-- The warning in the report. -/
def warning? : Fate → Option String
  | packed _ => none
  | missing warning => some warning
  | duplicate name => some ("duplicate archive entry " ++ name ++ " skipped")

theorem filterMap_cons {β : Type} (f : Fate → Option β) (fate : Fate) (fates : List Fate) :
    (fate :: fates).filterMap f = (f fate).toList ++ fates.filterMap f := by
  rw [List.filterMap_cons]
  cases f fate <;> rfl

end Fate

/-- What becomes of an entry that comes after `earlier` ones. -/
inductive Offered (earlier : List Entry) (entry : Entry) : Fate → Prop
  | packed (h : ∀ e ∈ earlier, sameName e.name entry.name = false) :
    Offered earlier entry (.packed entry)
  | duplicate (h : ∃ e ∈ earlier, sameName e.name entry.name = true) :
    Offered earlier entry (.duplicate entry.name)

/-- What becomes of a candidate that comes after `earlier` entries. -/
inductive Meets (files : Store) (earlier : List Entry) (candidate : Candidate) : Fate → Prop
  | missing {warning : String} (hwarning : candidate.warning = some warning)
      (hmissing : files.contains candidate.path = false) :
    Meets files earlier candidate (.missing warning)
  | offered {name : String} {content : Content} {fate : Fate}
      (hthere : files.contains candidate.path = true) (hname : candidate.name = some name)
      (hread : files.read candidate.path = .ok content)
      (h : Offered earlier ⟨name, content.toBytes⟩ fate) : Meets files earlier candidate fate

/-- What becomes of candidates, one after the other. -/
inductive Accounts (files : Store) : List Entry → List Candidate → List Fate → Prop
  | nil {earlier : List Entry} : Accounts files earlier [] []
  | cons {earlier : List Entry} {candidate : Candidate} {candidates : List Candidate} {fate : Fate}
      {fates : List Fate} (h : Meets files earlier candidate fate)
      (hrest : Accounts files (earlier ++ fate.entry?.toList) candidates fates) :
    Accounts files earlier (candidate :: candidates) (fate :: fates)

namespace Contents

variable {files : Store} {c c' : Contents}

/-- The contents after a candidate of some fate. -/
def after (c : Contents) (fate : Fate) : Contents :=
  ⟨c.entries ++ fate.entry?.toList, c.warnings ++ fate.warning?.toList⟩

theorem exists_offered_add (c : Contents) (entry : Entry) :
    ∃ fate, Offered c.entries entry fate ∧ c.add entry = c.after fate := by
  unfold add
  by_cases h : c.hasName entry.name = true
  · rw [if_pos h]
    refine ⟨.duplicate entry.name, .duplicate (hasName_iff.1 h), ?_⟩
    simp [after, warn, Fate.entry?, Fate.warning?]
  · rw [if_neg h]
    refine ⟨.packed entry, .packed fun e he => ?_, ?_⟩
    · exact Bool.eq_false_iff.2 fun hsame => h (hasName_iff.2 ⟨e, he, hsame⟩)
    · simp [after, Fate.entry?, Fate.warning?]

theorem exists_meets_addCandidate {candidate : Candidate}
    (h : c.addCandidate files candidate = .ok c') :
    ∃ fate, Meets files c.entries candidate fate ∧ c' = c.after fate := by
  rcases addCandidate_eq_ok_iff.1 h with
    ⟨warning, hwarning, hmissing, rfl⟩ | ⟨hthere, name, content, hname, hread, rfl⟩
  · refine ⟨.missing warning, .missing hwarning hmissing, ?_⟩
    simp [after, warn, Fate.entry?, Fate.warning?]
  · obtain ⟨fate, hoffered, hadd⟩ := exists_offered_add c ⟨name, content.toBytes⟩
    have hcontains : files.contains candidate.path = true := contains_of_read hread
    exact ⟨fate, .offered hcontains hname hread hoffered, hadd⟩

/-- What has been packed of candidates, and what has been warned of, is what became of them. -/
theorem exists_accounts_foldlM {candidates : List Candidate}
    (h : candidates.foldlM (addCandidate files) c = .ok c') :
    ∃ fates, Accounts files c.entries candidates fates ∧
      c' = ⟨c.entries ++ fates.filterMap Fate.entry?,
        c.warnings ++ fates.filterMap Fate.warning?⟩ := by
  induction candidates generalizing c with
  | nil =>
    cases h
    exact ⟨[], .nil, by simp⟩
  | cons candidate candidates ih =>
    obtain ⟨next, hnext, hrest⟩ := foldlM_cons_eq_ok_iff.1 h
    obtain ⟨fate, hmeets, rfl⟩ := exists_meets_addCandidate hnext
    obtain ⟨fates, haccounts, rfl⟩ := ih hrest
    refine ⟨fate :: fates, .cons hmeets haccounts, ?_⟩
    rw [Fate.filterMap_cons, Fate.filterMap_cons, ← List.append_assoc, ← List.append_assoc]
    rfl

/-- The manifest is the last candidate. A packer without an extension of its own is warned of
before. -/
theorem exists_offered_addManifest (c : Contents) (manifest : Manifest) (file : String) :
    ∃ fate, Offered c.entries ⟨Manifest.fileName, Text.encode (manifest.text file).toList⟩ fate ∧
      c.addManifest manifest file =
        ⟨c.entries ++ fate.entry?.toList,
          c.warnings ++ (if manifest.kind = .packer ∧ manifest.defaultExtension = none then
            ["no default extension given, using `" ++ manifest.archiveExtension ++ "`"] else []) ++
          fate.warning?.toList⟩ := by
  unfold addManifest
  by_cases h : manifest.kind = .packer ∧ manifest.defaultExtension = none
  · rw [if_pos h, if_pos h]
    obtain ⟨fate, hoffered, hadd⟩ := exists_offered_add
      (c.warn ("no default extension given, using `" ++ manifest.archiveExtension ++ "`"))
      ⟨Manifest.fileName, Text.encode (manifest.text file).toList⟩
    exact ⟨fate, hoffered, hadd⟩
  · rw [if_neg h, if_neg h, List.append_nil]
    exact exists_offered_add c _

end Contents

/-! ## Names -/

/-- No two entries have one name, but for the case of ASCII letters. -/
def Distinct (entries : List Entry) : Prop :=
  entries.Pairwise fun a b => sameName a.name b.name = false

variable {files : Store} {earlier : List Entry}

theorem Offered.distinct {entry : Entry} {fate : Fate} (h : Offered earlier entry fate)
    (hearlier : Distinct earlier) : Distinct (earlier ++ fate.entry?.toList) := by
  cases h with
  | packed hfree =>
    refine List.pairwise_append.2 ⟨hearlier, List.pairwise_singleton _ _, fun e he b hb => ?_⟩
    rw [List.mem_singleton.1 hb]
    exact hfree e he
  | duplicate => rwa [Fate.entry?, Option.toList_none, List.append_nil]

theorem Meets.distinct {candidate : Candidate} {fate : Fate}
    (h : Meets files earlier candidate fate) (hearlier : Distinct earlier) :
    Distinct (earlier ++ fate.entry?.toList) := by
  cases h with
  | missing => rwa [Fate.entry?, Option.toList_none, List.append_nil]
  | offered _ _ _ hoffered => exact hoffered.distinct hearlier

theorem Accounts.distinct {candidates : List Candidate} {fates : List Fate}
    (h : Accounts files earlier candidates fates) (hearlier : Distinct earlier) :
    Distinct (earlier ++ fates.filterMap Fate.entry?) := by
  induction h with
  | nil => rwa [List.filterMap_nil, List.append_nil]
  | @cons earlier candidate candidates fate fates hmeets _ ih =>
    have hrest := ih (hmeets.distinct hearlier)
    rwa [Fate.filterMap_cons, ← List.append_assoc]

/-- Every candidate for a package that is built, and the manifest at the end, is packed with the
bytes of its file, or missing, or an earlier entry has its name, and a warning says so. There are no
other entries and warnings, but that of a packer without an extension of its own. -/
theorem build_accounts {sdk : String} {inputs : Inputs} {archive : Path} {report : Report}
    {files' : Store} (h : Gives (build sdk inputs archive) files report files') :
    ∃ primary begun fates last, inputs.modules.head? = some primary ∧
      Begins archive files begun ∧
      (∀ p content, files.read p = .ok content → files.target p ≠ files.target archive →
        begun.read p = .ok content) ∧
      Accounts begun [] (inputs.candidates sdk) fates ∧
      Offered (fates.filterMap Fate.entry?)
        ⟨Manifest.fileName, Text.encode
          (inputs.manifest.text (inputs.moduleName primary.architecture)).toList⟩ last ∧
      files'.read archive =
        .ok (.archive ⟨(fates ++ [last]).filterMap Fate.entry?, true⟩) ∧
      report.entries = ((fates ++ [last]).filterMap Fate.entry?).map
        (fun entry => ⟨entry.name, entry.bytes.length, Digest.md5 entry.bytes⟩) ∧
      report.warnings = fates.filterMap Fate.warning? ++
        (if inputs.manifest.kind = .packer ∧ inputs.manifest.defaultExtension = none then
          ["no default extension given, using `" ++ inputs.manifest.archiveExtension ++ "`"]
        else []) ++ last.warning?.toList ∧
      report.archive = archive ∧
      (report.entries.map (·.name)).Pairwise fun a b => sameName a b = false := by
  obtain ⟨primary, begun, contents, hprimary, hbegins, hcontents, hread, rfl⟩ :=
    exists_of_gives_build h
  obtain ⟨packed, hpacked, rfl⟩ := Inputs.contents_eq_ok_iff.1 hcontents
  obtain ⟨fates, haccounts, heq⟩ := Contents.exists_accounts_foldlM hpacked
  simp only [Contents.empty, List.nil_append] at haccounts heq
  subst heq
  obtain ⟨last, hlast, hmanifest⟩ := Contents.exists_offered_addManifest
    ⟨fates.filterMap Fate.entry?, fates.filterMap Fate.warning?⟩ inputs.manifest
    (inputs.moduleName primary.architecture)
  have hentries : (fates ++ [last]).filterMap Fate.entry? =
      fates.filterMap Fate.entry? ++ last.entry?.toList := by
    rw [List.filterMap_append, Fate.filterMap_cons, List.filterMap_nil, List.append_nil]
  have hdistinct : Distinct ((fates ++ [last]).filterMap Fate.entry?) := by
    rw [hentries]
    exact hlast.distinct (haccounts.distinct .nil)
  rw [hmanifest, ← hentries] at hread ⊢
  refine ⟨primary, begun, fates, last, hprimary, hbegins, fun p content => hbegins.read, haccounts,
    hlast, hread, rfl, rfl, rfl, ?_⟩
  rw [Report.ofContents, List.map_map]
  exact List.pairwise_map.2 hdistinct

/-! ## A sample -/

/-- A packer with a second native module that is missing, and with a reference that takes the name
of the manifest. -/
def packerInputs : Inputs :=
  { modules := [⟨.x86, ⟨"native.bin"⟩⟩, ⟨.x64, ⟨"missing.bin"⟩⟩]
    managed := ⟨"Sample.dll"⟩
    references := [⟨"lib/Sample.xml"⟩, ⟨"lib/pluginst.inf"⟩]
    manifest := ⟨.packer, "Sample", "A sample", "1.0", none⟩ }

/-- The entries of the archive of the sample. -/
def sampleEntries? (files : Store) : Option (List Entry) :=
  match files.read ⟨"Sample.zip"⟩ with
  | .ok (.archive archive) => some archive.entries
  | _ => none

/-- Three files are packed, and each of the other candidates has its warning. -/
theorem build_accounts_packerInputs :
    ∃ report after begun fates last,
      Gives (build "Plugins" packerInputs ⟨"Sample.zip"⟩) sampleFiles report after ∧
      Accounts begun [] (packerInputs.candidates "Plugins") fates ∧
      (fates ++ [last]).filterMap Fate.entry? =
        [⟨"Sample.wcx", [1]⟩, ⟨"Sample.dll", [2]⟩, ⟨"pluginst.inf", [3]⟩] ∧
      report.warnings = fates.filterMap Fate.warning? ++
        ["no default extension given, using `sample`"] ++ last.warning?.toList ∧
      report.warnings = ["x64 wrapper \"missing.bin\" not found, skipped",
        "debug symbols \"Sample.pdb\" not found", "no default extension given, using `sample`",
        "duplicate archive entry pluginst.inf skipped"] := by
  obtain ⟨report, after, h, hcheck⟩ := Gives.exists_of_succeeds
    (x := build "Plugins" packerInputs ⟨"Sample.zip"⟩) (s := sampleFiles)
    (fun report after => sampleEntries? after = some
        [⟨"Sample.wcx", [1]⟩, ⟨"Sample.dll", [2]⟩, ⟨"pluginst.inf", [3]⟩] &&
      report.warnings = ["x64 wrapper \"missing.bin\" not found, skipped",
        "debug symbols \"Sample.pdb\" not found", "no default extension given, using `sample`",
        "duplicate archive entry pluginst.inf skipped"]) (by decide +kernel)
  obtain ⟨hheld, hwarnings⟩ := Bool.and_eq_true_iff.1 hcheck
  obtain ⟨primary, begun, fates, last, -, -, -, haccounts, -, hread, -, hreport, -, -⟩ :=
    build_accounts h
  have hentries : sampleEntries? after = some ((fates ++ [last]).filterMap Fate.entry?) := by
    rw [sampleEntries?, hread]
  exact ⟨report, after, begun, fates, last, h, haccounts,
    Option.some.inj (hentries.symm.trans (of_decide_eq_true hheld)), hreport,
    of_decide_eq_true hwarnings⟩

end PluginBuild.Package
