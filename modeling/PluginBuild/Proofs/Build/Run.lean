import PluginBuild.Proofs.Build.Reassembly
/-!
# What a build makes of its templates

`BuildRequest.build_reassembles` says what the calls that make native modules are given, what the
build reports of them, and which of their results is packed first.
-/

namespace PluginBuild

open Files (Path Store Content Entry)

namespace BuildRequest

variable {request : BuildRequest} {settings : Settings} {tools : Toolchain} {work : Path}
  {w w' : World} {p : Preparation}

/-- The build as far as it has made `number` native modules. -/
def approach (request : BuildRequest) (settings : Settings) (tools : Toolchain) (work : Path)
    (number : Nat) :
    BuildAction (Preparation × List WrittenModule × List Package.NativeModule) := do
  let p ← request.prepare settings tools work
  let written ← writeKept work p
  let made ← (written.take number).mapM (reassemble tools work p)
  return (p, written, made)

/-- The build goes on with the native modules that have not been made. -/
theorem run_eq_approach_bind (request : BuildRequest) (settings : Settings) (tools : Toolchain)
    (work : Path) (number : Nat) :
    request.run settings tools work = (do
      let (p, written, made) ← request.approach settings tools work number
      let rest ← (written.drop number).mapM (reassemble tools work p)
      BuildAction.checkpoint
      request.pack settings work p written (made ++ rest)) := by
  unfold run approach
  simp only [bind_assoc, pure_bind]
  refine bind_congr fun p => bind_congr fun written => ?_
  have hsplit : written.mapM (reassemble tools work p) = (do
      let made ← (written.take number).mapM (reassemble tools work p)
      let rest ← (written.drop number).mapM (reassemble tools work p)
      return made ++ rest) := by
    rw [← List.mapM_append, List.take_append_drop]
  simp only [hsplit, bind_assoc, pure_bind]

/-- The build comes to the call that makes a native module of `module`, in the world `now`: those of
`before` have been made, and those of `after` have not. -/
def ComesTo (request : BuildRequest) (settings : Settings) (tools : Toolchain) (work : Path)
    (w : World) (p : Preparation) (before : List WrittenModule) (module : WrittenModule)
    (after : List WrittenModule) (now : World) : Prop :=
  ∃ made, Gives (request.approach settings tools work before.length) w
    (p, before ++ module :: after, made) now

theorem gives_approach_iff {number : Nat} {written : List WrittenModule}
    {made : List Package.NativeModule} {now : World} :
    Gives (request.approach settings tools work number) w (p, written, made) now ↔
      ∃ prepared kept, Gives (request.prepare settings tools work) w p prepared ∧
        Gives (writeKept work p) prepared written kept ∧
        Gives ((written.take number).mapM (reassemble tools work p)) kept made now := by
  unfold approach
  simp only [Gives.bind_iff, Gives.pure_iff]
  constructor
  · rintro ⟨_, prepared, hprepare, _, kept, hwrite, _, _, hmade, heq, rfl⟩
    cases heq
    exact ⟨prepared, kept, hprepare, hwrite, hmade⟩
  · rintro ⟨prepared, kept, hprepare, hwrite, hmade⟩
    exact ⟨p, prepared, hprepare, written, kept, hwrite, made, now, hmade, rfl, rfl⟩

theorem comesTo_iff {before after : List WrittenModule} {module : WrittenModule} {now : World} :
    request.ComesTo settings tools work w p before module after now ↔
      ∃ prepared kept made, Gives (request.prepare settings tools work) w p prepared ∧
        Gives (writeKept work p) prepared (before ++ module :: after) kept ∧
        Gives (before.mapM (reassemble tools work p)) kept made now := by
  simp only [ComesTo, gives_approach_iff, List.take_left]
  constructor
  · rintro ⟨made, prepared, kept, h⟩
    exact ⟨prepared, kept, made, h⟩
  · rintro ⟨prepared, kept, made, h⟩
    exact ⟨made, prepared, kept, h⟩

/-- The call that makes a native module of `module` in the world `now` leaves `content` in the file
that it is to write. -/
def Leaves (tools : Toolchain) (work : Path) (p : Preparation) (module : WrittenModule)
    (now : World) (content : Content) : Prop :=
  let call := reassembleCall work p module now.files
  (now.after call (tools now call)).files.read call.output = .ok content

/-- A call is given the trimmed listing of its own template, unless a later one is for the same
architecture. -/
theorem exists_reads_of_comesTo (htools : tools.KeepsOthers)
    {before after : List WrittenModule} {module : WrittenModule} {now : World}
    (h : request.ComesTo settings tools work w p before module after now) :
    ∃ text out, request.Reads settings tools work w before.length module.template text ∧
      p.analysis.decision.trim text = .ok (out, module.removal) ∧
      ((∀ m ∈ after, m.template.architecture ≠ module.template.architecture) →
        now.files.read module.source = .ok (.ofText out)) := by
  obtain ⟨prepared, written, made, hprepare, hwrite, hmake⟩ := comesTo_iff.1 h
  obtain ⟨heq, hmapM⟩ := eq_map_of_gives_writeKept hwrite
  obtain ⟨front, rest, hkept, rfl, hrest⟩ := List.map_eq_append_iff.1 heq.symm
  obtain ⟨m, back, rfl, rfl, rfl⟩ := List.map_eq_cons_iff.1 hrest
  obtain ⟨text, hreads, houtline⟩ := exists_reads_of_gives_prepare hprepare hkept
  refine ⟨text, m.trimmedText p.analysis.decision, by rwa [List.length_map],
    ReadModule.trim_eq_ok _ work houtline, fun hafter => ?_⟩
  rw [hkept] at hmapM
  have hwritten := read_trimmedPath_of_gives_mapM hmapM fun x hx =>
    hafter _ (List.mem_map_of_mem hx)
  exact read_of_gives_mapM_reassemble htools hmake
    (fun x _ s location => Template.locate_trimmedPath_ne_outputPath p _) hwritten

/-- The package that is published begins with the first native module. -/
theorem exists_entries_of_gives_pack {written : List WrittenModule}
    {modules : List Package.NativeModule} {outcome : BuildOutcome}
    (hmodules : modules = written.map fun m =>
      ⟨m.template.architecture, p.outputPath work m.template.architecture⟩)
    (h : Gives (request.pack settings work p written modules) w outcome w') :
    outcome.modules = written.map (fun m => ⟨m.template.architecture, m.removal⟩) ∧
      ∃ first rest archive entry, written = first :: rest ∧
        w'.files.read outcome.archive = .ok (.archive archive) ∧ archive.finished ∧
        archive.entries.find? (·.name =
          p.name ++ "." ++ p.analysis.decision.kind.extension first.template.architecture) =
            some entry ∧
        ∀ content, w.files.read (p.outputPath work first.template.architecture) = .ok content →
          entry.bytes = content.toBytes := by
  unfold pack at h
  simp only [Gives.bind_iff, Gives.onFiles_iff, Gives.checkpoint_iff, Gives.pure_iff] at h
  obtain ⟨report, _, ⟨packed, hbuild, rfl⟩, -, _, ⟨-, rfl⟩, _, _, ⟨published, hpublish, rfl⟩,
    rfl, rfl⟩ := h
  refine ⟨rfl, ?_⟩
  obtain ⟨primary, begun, contents, hprimary, ⟨made, hmade, hbegun⟩, hcontents, harchive, -⟩ :=
    Package.exists_of_gives_build hbuild
  cases written with
  | nil => simp [hmodules] at hprimary
  | cons first rest =>
    obtain ⟨content, entries, hread, hentries⟩ :=
      Package.Inputs.exists_entries_eq hmodules hcontents
    let name := p.name ++ "." ++ p.analysis.decision.kind.extension first.template.architecture
    have hfind : contents.entries.find? (·.name = name) = some ⟨name, content.toBytes⟩ := by
      rw [hentries]
      exact List.find?_cons_of_pos (decide_eq_true rfl)
    refine ⟨first, rest, _, _, rfl, Package.read_of_gives_publish hpublish harchive, rfl, hfind,
      fun held hheld => ?_⟩
    -- Neither the directory of the archive nor the archive itself is where the module is.
    have hmoved := Package.read_of_gives_makeParent hmade hheld
    obtain ⟨location, executable, hl, -⟩ := Store.read_eq_ok_iff.1 hmoved
    have hkept := Store.read_write_of_locate_ne hbegun hmoved
      (Preparation.locate_outputPath_ne_archive request.runtime hl)
    exact congrArg Content.toBytes (Except.ok.inj (hread.symm.trans hkept))

/-- Clearing away the directory of a build does not change its outcome. -/
theorem build_fst_eq_ok_iff {outcome : BuildOutcome} :
    (request.build settings tools work w).1 = .ok outcome ↔
      ∃ w', Gives (request.run settings tools work) w outcome w' := by
  have hresult : (request.build settings tools work w).1 =
      ((request.run settings tools work).run w).1 := by
    rcases hrun : (request.run settings tools work).run w with ⟨result, after⟩
    rw [build, hrun]
    dsimp only
    split <;> rfl
  rw [hresult]
  constructor
  · intro h
    exact ⟨((request.run settings tools work).run w).2, Prod.ext h rfl⟩
  · rintro ⟨w', h⟩
    exact congrArg Prod.fst h

/-- The build hands every call that makes a native module the trimmed listing of its own template,
unless a later template is for the same architecture. A build that succeeds reports that trimming
for every template that is kept, and what it packs for the first template is what the call for that
one left, unless another template is for the same architecture. The world `w'` is the one before the
directory of the build is cleared away. -/
theorem build_reassembles (htools : tools.KeepsOthers) (request : BuildRequest)
    (settings : Settings) (work : Path) (w : World) :
    (∀ p before module after now,
      request.ComesTo settings tools work w p before module after now →
        ∃ text out, request.Reads settings tools work w before.length module.template text ∧
          p.analysis.decision.trim text = .ok (out, module.removal) ∧
          ((∀ m ∈ after, m.template.architecture ≠ module.template.architecture) →
            now.files.read module.source = .ok (.ofText out))) ∧
    ∀ outcome, (request.build settings tools work w).1 = .ok outcome →
      ∃ p written w', Gives (request.run settings tools work) w outcome w' ∧
        outcome.modules = written.map (fun m => ⟨m.template.architecture, m.removal⟩) ∧
        (∀ before module after, written = before ++ module :: after →
          ∃ now, request.ComesTo settings tools work w p before module after now) ∧
        ∃ first rest archive entry, written = first :: rest ∧
          request.templates.head? = some first.template ∧
          w'.files.read outcome.archive = .ok (.archive archive) ∧ archive.finished ∧
          archive.entries.find? (·.name =
            p.name ++ "." ++ p.analysis.decision.kind.extension first.template.architecture) =
              some entry ∧
          ((∀ m ∈ rest, m.template.architecture ≠ first.template.architecture) →
            ∀ now content, request.ComesTo settings tools work w p [] first rest now →
              Leaves tools work p first now content → entry.bytes = content.toBytes) := by
  refine ⟨fun p before module after now => exists_reads_of_comesTo htools,
    fun outcome hbuild => ?_⟩
  obtain ⟨w', hrun⟩ := build_fst_eq_ok_iff.1 hbuild
  have h := hrun
  unfold run at h
  simp only [Gives.bind_iff, Gives.checkpoint_iff] at h
  obtain ⟨p, prepared, hprepare, written, kept, hwrite, modules, made, hmake, _, _, ⟨-, rfl⟩,
    hpack⟩ := h
  have hmodules : modules = written.map fun m =>
      ⟨m.template.architecture, p.outputPath work m.template.architecture⟩ :=
    Gives.mapM_eq_map (fun m t x t' hx => (gives_reassemble_iff.1 hx).1) hmake
  obtain ⟨hreport, first, rest, archive, entry, rfl, harchive, hfinished, hentry, hbytes⟩ :=
    exists_entries_of_gives_pack hmodules hpack
  refine ⟨p, first :: rest, w', hrun, hreport, ?_, first, rest, archive, entry, rfl, ?_, harchive,
    hfinished, hentry, ?_⟩
  · -- Every call was made: the run went through those before it.
    rintro before module after heq
    rw [heq] at hwrite hmake
    obtain ⟨front, _, now, hfront, -, -⟩ := Gives.mapM_append_iff.1 hmake
    exact ⟨now, comesTo_iff.2 ⟨prepared, kept, front, hprepare, hwrite, hfront⟩⟩
  · obtain ⟨m, others, hkept, rfl, -⟩ :=
      List.map_eq_cons_iff.1 (eq_map_of_gives_writeKept hwrite).1.symm
    exact head?_kept_of_gives_prepare hprepare hkept
  · -- What the first call left is still there when the package is built.
    rintro hothers now content hcomes hleaves
    obtain ⟨prepared', kept', _, hprepare', hwrite', hnone⟩ := comesTo_iff.1 hcomes
    obtain ⟨-, rfl⟩ := hprepare.unique hprepare'
    obtain ⟨-, rfl⟩ := hwrite.unique hwrite'
    obtain ⟨-, rfl⟩ := Gives.mapM_nil_iff.1 hnone
    obtain ⟨x, others, made', hfirst, hrest, -⟩ := Gives.mapM_cons_iff.1 hmake
    obtain ⟨-, -, rfl⟩ := gives_reassemble_iff.1 hfirst
    have hkept := read_of_gives_mapM_reassemble htools hrest
      (fun m hm s location => Preparation.locate_outputPath_ne (hothers m hm).symm) hleaves
    exact hbytes content hkept

end BuildRequest

/-! ## A sample -/

/-- Tools that write the number of the call to the file of the call and to other files. -/
def Toolchain.numbering (others : List Path) : Toolchain := fun w call =>
  match (call.output :: others).foldlM
      (fun files path => files.write path (.bytes [UInt8.ofNat w.calls.length])) w.files with
  | .ok files => ⟨.ok [], files, false⟩
  | .error failure => ⟨.error (.files failure), w.files, false⟩

/-- Tools that write to the file of the call alone keep all others. -/
theorem Toolchain.numbering_keepsOthers : (Toolchain.numbering []).KeepsOthers := by
  intro w source output resource architecture p content hr hne
  simp only [World.after, numbering, ToolCall.output, List.foldlM_cons, List.foldlM_nil, bind,
    Except.bind, pure, Except.pure]
  rcases hwrite : w.files.write output (.bytes [UInt8.ofNat w.calls.length]) with _ | files
  · exact hr
  · have hsame : (⟨w.files.workingDirectory, files.nodes⟩ : Store) = files := by
      rw [← (Store.extends_write hwrite).workingDirectory]
    simp only [hsame]
    exact Store.read_write_of_locate_ne hwrite hr hne

namespace BuildRequest

/-- The listing of an assembly with one plugin. -/
def sampleListing : List Char :=
  (".class Fs extends FsPlugin\n\x7b\n  .custom PluginDefinitionAttribute::.ctor(string) = " ++
    "\x7b string('FileSystem') \x7d\n\x7d\n").toList

/-- A template with one method and the marker of an export that the plugin does not implement. -/
def sampleTemplate (method : String) : List Char :=
  (".method void " ++ method ++ "()\n\x7b\n  .export [1] as FsMkDir\n\x7d\n").toList

/-- A world with the files of the sample. -/
def sampleWorld : World :=
  { files :=
      { workingDirectory := []
        nodes :=
          [(["Sample.dll"], .file (.bytes []) false),
            (["Sample.il"], .file (.ofText sampleListing) false),
            (["first.il"], .file (.ofText (sampleTemplate "First")) false),
            (["second.il"], .file (.ofText (sampleTemplate "Second")) false)] }
    cancelled := false
    calls := [] }

/-- The build of the sample with two templates, for the architectures given. -/
def sample (first second : Architecture) : BuildRequest :=
  { assembly := ⟨"Sample.dll"⟩
    metadata := .listings ⟨"Sample.il"⟩ []
    templates := [⟨first, ⟨"first.il"⟩⟩, ⟨second, ⟨"second.il"⟩⟩]
    references := []
    output := ⟨"out"⟩
    runtime := none
    name := some "Sample"
    defaultExtension := none }

/-- The directory of the build of the sample. -/
def sampleWork : Path := ⟨"work"⟩

/-- The settings of the sample. -/
def sampleSettings : Settings := SettingsLayer.empty.settings

deriving instance DecidableEq for Except

/-- The entry of the packed sample for the first architecture. -/
def samplePacked? (outcome : BuildOutcome) (after : World) : Option Entry :=
  match after.files.read outcome.archive with
  | .ok (.archive archive) => archive.entries.find? (·.name = "Sample.wfx")
  | _ => none

instance (tools : Toolchain) (work : Path) (p : Preparation) (module : WrittenModule)
    (now : World) (content : Content) : Decidable (Leaves tools work p module now content) :=
  inferInstanceAs (Decidable (_ = _))

/-- Both calls of the sample for two architectures are given the trimmed listings of their own
templates, and what the first one writes is packed. -/
theorem build_reassembles_sample :
    ∃ p first second now later outcome after,
      (sample .x86 .x64).ComesTo sampleSettings (.numbering []) sampleWork sampleWorld p []
        first [second] now ∧
      (∃ text out, (sample .x86 .x64).Reads sampleSettings (.numbering []) sampleWork sampleWorld 0
          first.template text ∧
        p.analysis.decision.trim text = .ok (out, first.removal) ∧
        now.files.read first.source = .ok (.ofText out)) ∧
      (sample .x86 .x64).ComesTo sampleSettings (.numbering []) sampleWork sampleWorld p [first]
        second [] later ∧
      (∃ text out, (sample .x86 .x64).Reads sampleSettings (.numbering []) sampleWork sampleWorld 1
          second.template text ∧
        p.analysis.decision.trim text = .ok (out, second.removal) ∧
        later.files.read second.source = .ok (.ofText out)) ∧
      Gives ((sample .x86 .x64).run sampleSettings (.numbering []) sampleWork) sampleWorld outcome
        after ∧
      outcome.modules = [⟨.x86, first.removal⟩, ⟨.x64, second.removal⟩] ∧
      samplePacked? outcome after = some ⟨"Sample.wfx", [0]⟩ := by
  obtain ⟨hsources, hbuild⟩ := build_reassembles Toolchain.numbering_keepsOthers (sample .x86 .x64)
    sampleSettings sampleWork sampleWorld
  obtain ⟨outcome, after, hrun, hcheck⟩ := Gives.exists_of_succeeds
    (x := (sample .x86 .x64).run sampleSettings (.numbering []) sampleWork) (s := sampleWorld)
    (fun outcome _ => outcome.modules.map (·.architecture) = [.x86, .x64]) (by decide +kernel)
  obtain ⟨⟨q, written, made⟩, now, hcall, hleaves⟩ := Gives.exists_of_succeeds
    (x := (sample .x86 .x64).approach sampleSettings (.numbering []) sampleWork 0)
    (s := sampleWorld)
    (fun (p, written, _) now => p.analysis.decision.kind = .fileSystem && p.name = "Sample" &&
      written.head?.any fun first => Leaves (.numbering []) sampleWork p first now (.bytes [0]))
    (by decide +kernel)
  obtain ⟨p, modules, after', hrun', hmodules, hcomes, first, rest, archive, entry, rfl, -,
    harchive, -, hentry, hbytes⟩ := hbuild outcome (build_fst_eq_ok_iff.2 ⟨after, hrun⟩)
  obtain ⟨-, rfl⟩ := hrun.unique hrun'
  obtain ⟨_, _, hcall'⟩ := hcomes [] first rest rfl
  obtain ⟨heq, rfl⟩ := hcall.unique hcall'
  obtain ⟨rfl, rfl, rfl⟩ : p = q ∧ written = first :: rest ∧ made = _ := by
    simpa [eq_comm] using heq
  obtain ⟨second, rfl, hfirst, hsecond⟩ : ∃ second, rest = [second] ∧
      first.template.architecture = .x86 ∧ second.template.architecture = .x64 := by
    rw [hmodules] at hcheck
    rcases rest with _ | ⟨second, _ | _⟩
    · simp at hcheck
    · exact ⟨second, rfl, by simpa using hcheck⟩
    · simp at hcheck
  obtain ⟨later, hlater⟩ := hcomes [first] second [] rfl
  obtain ⟨text, out, hreads, htrim, hsource⟩ := hsources p [] first [second] now ⟨made, hcall⟩
  obtain ⟨text', out', hreads', htrim', hsource'⟩ := hsources p [first] second [] later hlater
  have hothers : ∀ m ∈ [second], m.template.architecture ≠ first.template.architecture := by
    simp [hfirst, hsecond]
  obtain ⟨⟨hkind, hname⟩, hleft⟩ : (p.analysis.decision.kind = .fileSystem ∧ p.name = "Sample") ∧
      Leaves (.numbering []) sampleWork p first now (.bytes [0]) := by
    simpa using hleaves
  refine ⟨p, first, second, now, later, outcome, after, ⟨made, hcall⟩,
    ⟨text, out, hreads, htrim, hsource hothers⟩, hlater,
    ⟨text', out', hreads', htrim', hsource' nofun⟩, hrun, by simp [hmodules, hfirst, hsecond], ?_⟩
  have hfile : p.name ++ "." ++ p.analysis.decision.kind.extension first.template.architecture =
      "Sample.wfx" := by
    rw [hname, hkind, hfirst]
    rfl
  rw [hfile] at hentry
  have hentryName : entry.name = "Sample.wfx" := by simpa using List.find?_some hentry
  have hentryBytes : entry.bytes = [0] := hbytes hothers now _ ⟨made, hcall⟩ hleft
  simp only [samplePacked?, harchive]
  rw [hentry, ← hentryName, ← hentryBytes]

/-- The call with a number is given something else than the trimmed listing of its template. -/
def Confuses (request : BuildRequest) (tools : Toolchain) (number : Nat) : Prop :=
  ∃ p before module after now text out, before.length = number ∧
    request.ComesTo sampleSettings tools sampleWork sampleWorld p before module after now ∧
    request.Reads sampleSettings tools sampleWork sampleWorld number module.template text ∧
    p.analysis.decision.trim text = .ok (out, module.removal) ∧
    now.files.read module.source ≠ .ok (.ofText out)

/-- Whether a call is given something else shows when the build is run up to it. -/
theorem confuses_of_gives {request : BuildRequest} {tools : Toolchain} {p : Preparation}
    {written : List WrittenModule} {made : List Package.NativeModule} {now : World} {number : Nat}
    (h : Gives (request.approach sampleSettings tools sampleWork number) sampleWorld
      (p, written, made) now)
    (hread : p.kept[number]?.any (fun m => now.files.read (m.template.trimmedPath sampleWork) ≠
      .ok (.ofText (m.trimmedText p.analysis.decision))) = true) :
    request.Confuses tools number := by
  obtain ⟨m, hm, hne⟩ := (Option.any_eq_true _ _).1 hread
  obtain ⟨front, back, hkept, rfl⟩ : ∃ front back, p.kept = front ++ m :: back ∧
      front.length = number := by
    obtain ⟨hnumber, rfl⟩ := List.getElem?_eq_some_iff.1 hm
    exact ⟨p.kept.take number, p.kept.drop (number + 1), by simp, by simp; omega⟩
  obtain ⟨prepared, kept, hprepare, hwrite, hmade⟩ := gives_approach_iff.1 h
  obtain ⟨rfl, -⟩ := eq_map_of_gives_writeKept hwrite
  obtain ⟨text, hreads, houtline⟩ := exists_reads_of_gives_prepare hprepare hkept
  let written := fun m : ReadModule => m.written p.analysis.decision sampleWork
  refine ⟨p, front.map written, written m, back.map written, now, text, _, List.length_map _,
    ⟨made, ?_⟩, hreads, ReadModule.trim_eq_ok _ sampleWork houtline, of_decide_eq_true hne⟩
  rwa [hkept, List.map_append, List.map_cons, ← List.length_map written] at h

/-- What a call is given and what is packed can be of another call: two templates for one
architecture share the file of the trimmed listing and that of the native module, and tools may
write to files of which they have not been told. -/
theorem exists_confused :
    (sample .x86 .x86).Confuses (.numbering []) 0 ∧
    (sample .x86 .x64).Confuses (.numbering [⟨"work/wrapper-x64.trimmed.il"⟩]) 1 ∧
    ∃ p first rest now outcome after entry,
      (sample .x86 .x86).ComesTo sampleSettings (.numbering []) sampleWork sampleWorld p [] first
        rest now ∧
      Leaves (.numbering []) sampleWork p first now (.bytes [0]) ∧
      Gives ((sample .x86 .x86).run sampleSettings (.numbering []) sampleWork) sampleWorld outcome
        after ∧
      samplePacked? outcome after = some entry ∧ entry.bytes ≠ [0] := by
  -- The second template's listing is in the file that the first call is given.
  obtain ⟨⟨p, written, made⟩, now, hfirst, hcheck⟩ := Gives.exists_of_succeeds
    (x := (sample .x86 .x86).approach sampleSettings (.numbering []) sampleWork 0)
    (s := sampleWorld)
    (fun (p, written, _) now =>
      (p.kept[0]?.any fun m => now.files.read (m.template.trimmedPath sampleWork) ≠
        .ok (.ofText (m.trimmedText p.analysis.decision))) &&
      written.head?.any fun first => Leaves (.numbering []) sampleWork p first now (.bytes [0]))
    (by decide +kernel)
  obtain ⟨hconfused, hleaves⟩ := Bool.and_eq_true_iff.1 hcheck
  -- The first call writes to the file that the second call is given.
  obtain ⟨⟨p', written', made'⟩, later, hsecond, hconfused'⟩ := Gives.exists_of_succeeds
    (x := (sample .x86 .x64).approach sampleSettings
      (.numbering [⟨"work/wrapper-x64.trimmed.il"⟩]) sampleWork 1)
    (s := sampleWorld)
    (fun (p, _, _) now => p.kept[1]?.any fun m =>
      now.files.read (m.template.trimmedPath sampleWork) ≠
        .ok (.ofText (m.trimmedText p.analysis.decision)))
    (by decide +kernel)
  -- The second call writes to the file of the first.
  obtain ⟨outcome, after, hrun, hentry⟩ := Gives.exists_of_succeeds
    (x := (sample .x86 .x86).run sampleSettings (.numbering []) sampleWork) (s := sampleWorld)
    (fun outcome after => samplePacked? outcome after = some ⟨"Sample.wfx", [1]⟩)
    (by decide +kernel)
  refine ⟨confuses_of_gives hfirst hconfused, confuses_of_gives hsecond hconfused', ?_⟩
  obtain ⟨first, hhead, hleaves⟩ := (Option.any_eq_true _ _).1 hleaves
  obtain ⟨rest, rfl⟩ := List.head?_eq_some_iff.1 hhead
  exact ⟨p, first, rest, now, outcome, after, _, ⟨made, hfirst⟩, of_decide_eq_true hleaves, hrun,
    of_decide_eq_true hentry, by decide⟩

end BuildRequest

end PluginBuild
