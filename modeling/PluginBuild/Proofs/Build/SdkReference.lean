import PluginBuild.Proofs.Build.Plan
import PluginBuild.Proofs.Files.Store
/-!
# The assembly with the base classes

Of the references, the first one with the name of the assembly is taken, whatever its extension.
Where a documentation file leads the references of that name (`BuildRequest.documentationLeads`), it
is the one that is disassembled. Where none does, documentation has no say in what is taken.
-/

namespace PluginBuild

open Files (Path Store)
open Package (isDocumentation sameName)

namespace Files.Path

variable {p : Path} {extension : List Char}

/-- A path that ends neither with a slash nor with a dot loses nothing at its end. -/
theorem dropEnd_append_of_plain (front : List Char) (hne : extension ≠ [])
    (hdot : '.' ∉ extension) (hslash : '/' ∉ extension) :
    dropEnd (front ++ extension) = front ++ extension := by
  obtain ⟨c, rest, hrest⟩ := List.exists_cons_of_ne_nil (mt List.reverse_eq_nil_iff.1 hne)
  have hmem : c ∈ extension := List.mem_reverse.1 (hrest ▸ List.mem_cons_self)
  have hreverse : (front ++ extension).reverse = c :: (rest ++ front.reverse) := by
    rw [List.reverse_append, hrest, List.cons_append]
  have hkept : dropEndReversed (c :: (rest ++ front.reverse)) = c :: (rest ++ front.reverse) := by
    have hc : c ≠ '/' := fun h => hslash (h ▸ hmem)
    have hc' : c ≠ '.' := fun h => hdot (h ▸ hmem)
    rw [dropEndReversed.eq_def]
    split <;> simp_all
  rw [dropEnd, hreverse, hkept, ← hreverse, List.reverse_reverse]

/-- A path that ends with a dot and some text has no other extension than that text. -/
theorem extension?_of_suffix (h : '.' :: extension <:+ p.text.toList) (hne : extension ≠ [])
    (hdot : '.' ∉ extension) (hslash : '/' ∉ extension) :
    p.extension? = none ∨ p.extension? = some (String.ofList extension) := by
  obtain ⟨front, hfront⟩ := h
  have hcut : (cutLast p.text.toList).2.reverse =
      extension.reverse ++ '.' :: front.reverse.takeWhile (· ≠ '/') := by
    have hkept : ∀ c ∈ extension.reverse, decide (c ≠ '/') = true := fun c hc =>
      decide_eq_true fun heq => hslash (heq ▸ List.mem_reverse.1 hc)
    rw [← hfront, List.append_cons, cutLast, dropEnd_append_of_plain _ hne hdot hslash]
    simp only [List.reverse_append, List.reverse_reverse, List.append_assoc]
    rw [List.takeWhile_append_of_pos hkept]
    simp
  have hname : ∀ name, p.name? = some name → name.toList = (cutLast p.text.toList).2 := by
    intro name hname
    simp only [name?] at hname
    split at hname
    · cases hname
    · rw [← Option.some.inj hname, String.toList_ofList]
  unfold extension?
  cases hp : p.name? with
  | none => exact .inl rfl
  | some name =>
    have hlast : ∀ c ∈ extension.reverse, decide (c ≠ '.') = true := fun c hc =>
      decide_eq_true fun heq => hdot (heq ▸ List.mem_reverse.1 hc)
    rw [Option.bind_some, cutName, hname name hp, hcut, List.takeWhile_append_of_pos hlast]
    split
    · exact .inl rfl
    · right
      simp

/-- A library is no documentation. -/
theorem isDocumentation_of_hasEnding (h : p.HasEnding ".dll".toList) :
    isDocumentation p = false := by
  unfold isDocumentation
  have hsuffix : '.' :: "dll".toList <:+ p.text.toList := h.suffix
  rcases extension?_of_suffix hsuffix (by decide) (by decide) (by decide) with hnone | hdll
  · rw [hnone, Option.any_none]
  · rw [hdll, Option.any_some]
    decide

end Files.Path

namespace BuildRequest

variable {request other : BuildRequest} {sdk : String} {files : Store}

/-- Whether a path has the name of the assembly with the base classes. -/
def isNamed (sdk : String) (path : Path) : Bool := path.stem?.any (sameName · sdk)

/-- The assembly with the base classes beside the managed assembly, if it is there. -/
def beside? (assembly : Path) (sdk : String) (files : Store) : Option Path :=
  let sibling := assembly.withName (sdk ++ ".dll")
  if files.contains sibling then some sibling else none

theorem sdkReference?_eq (request : BuildRequest) (sdk : String) (files : Store) :
    request.sdkReference? sdk files =
      (request.references.find? (isNamed sdk)).or (beside? request.assembly sdk files) := by
  unfold sdkReference?
  split
  · next first hfirst => exact (congrArg (Option.or · _) hfirst).symm
  · next hnone => exact (congrArg (Option.or · _) hnone).symm

theorem isDocumentation_of_beside? {assembly path : Path}
    (h : beside? assembly sdk files = some path) : isDocumentation path = false := by
  dsimp only [beside?] at h
  obtain ⟨-, heq⟩ := Option.ite_none_right_eq_some.1 h
  obtain rfl := Option.some.inj heq
  refine Path.isDocumentation_of_hasEnding ?_
  have hlast : (⟨sdk ++ ".dll"⟩ : Path).HasEnding ".dll".toList := by
    refine ⟨?_, by decide, by decide⟩
    rw [String.toList_append]
    exact List.suffix_append _ _
  unfold Path.withName
  split
  · exact hlast.join _
  · exact hlast.join _

/-- Whether a documentation file stands before all other references of the name of the assembly
with the base classes. -/
def documentationLeads (request : BuildRequest) (sdk : String) : Bool :=
  (request.references.find? (isNamed sdk)).any isDocumentation

/-- The request without the documentation among its references. -/
def withoutDocumentation (request : BuildRequest) : BuildRequest :=
  { request with references := request.references.filter fun path => !isDocumentation path }

/-- What is taken is documentation exactly where documentation leads the references. -/
theorem isDocumentation_of_sdkReference? {path : Path}
    (h : request.sdkReference? sdk files = some path) :
    isDocumentation path = request.documentationLeads sdk := by
  rw [sdkReference?_eq] at h
  unfold documentationLeads
  cases hfirst : request.references.find? (isNamed sdk) with
  | some first =>
    rw [hfirst, Option.some_or] at h
    rw [← Option.some.inj h, Option.any_some]
  | none =>
    rw [hfirst, Option.none_or] at h
    rw [Option.any_none, isDocumentation_of_beside? h]

/-- A reference of the name is taken before any other file. -/
theorem exists_sdkReference?_of_any (h : request.references.any (isNamed sdk) = true) :
    ∃ path ∈ request.references, isNamed sdk path = true ∧
      request.sdkReference? sdk files = some path := by
  rw [← List.isSome_find?] at h
  obtain ⟨path, hpath⟩ := Option.isSome_iff_exists.1 h
  refine ⟨path, List.mem_of_find?_eq_some hpath, List.find?_some hpath, ?_⟩
  rw [sdkReference?_eq, hpath, Option.some_or]

theorem exists_sdkReference?_of_leads (h : request.documentationLeads sdk = true)
    (files : Store) : ∃ path, request.sdkReference? sdk files = some path := by
  unfold documentationLeads at h
  cases hfirst : request.references.find? (isNamed sdk) with
  | some path => exact ⟨path, by rw [sdkReference?_eq, hfirst, Option.some_or]⟩
  | none =>
    rw [hfirst] at h
    cases h

/-- Documentation that does not lead the references may be left out. -/
theorem sdkReference?_withoutDocumentation (h : request.documentationLeads sdk = false)
    (files : Store) :
    request.withoutDocumentation.sdkReference? sdk files = request.sdkReference? sdk files := by
  suffices hfirst : request.withoutDocumentation.references.find? (isNamed sdk) =
      request.references.find? (isNamed sdk) by
    rw [sdkReference?_eq, sdkReference?_eq, hfirst]
    rfl
  unfold documentationLeads at h
  change (request.references.filter _).find? _ = _
  generalize request.references = references at h ⊢
  induction references with
  | nil => rfl
  | cons path references ih =>
    by_cases hnamed : isNamed sdk path = true
    · rw [List.find?_cons_of_pos hnamed, Option.any_some] at h
      rw [List.filter_cons_of_pos (by rw [h]; rfl), List.find?_cons_of_pos hnamed,
        List.find?_cons_of_pos hnamed]
    · rw [List.find?_cons_of_neg hnamed] at h ⊢
      rw [List.filter_cons]
      split
      · rw [List.find?_cons_of_neg hnamed, ih h]
      · exact ih h

/-- What the build disassembles: the managed assembly and then what is taken for the assembly with
the base classes. -/
theorem exists_follows_readMetadata (hmetadata : request.metadata = .assembly)
    (settings : Settings) (tools : Toolchain) (work : Path) (w : World) :
    ∃ chosen : Option Path,
      (∀ path ∈ chosen, ∃ files,
        request.sdkReference? settings.sdkAssembly files = some path) ∧
      Follows (request.readMetadata settings tools work) w
        (.disassemble request.assembly (work.join ⟨"managed.il"⟩) ::
          (chosen.map fun path => .disassemble path (work.join ⟨"sdk.il"⟩)).toList) := by
  have hfollows : ∀ chosen, (∀ module now,
      Gives (readAssembly tools request.assembly (work.join ⟨"managed.il"⟩)) w module now →
        chosen = request.sdkReference? settings.sdkAssembly now.files) →
      Follows (request.readMetadata settings tools work) w
        (.disassemble request.assembly (work.join ⟨"managed.il"⟩) ::
          (chosen.map fun path => .disassemble path (work.join ⟨"sdk.il"⟩)).toList) := by
    intro chosen hchosen
    let plan : CallPlan := ⟨chosen, fun _ => false, fun _ => work⟩
    have h : Follows (request.readMetadata settings tools work) w
        (plan.metadataCalls request work) := follows_readMetadata hchosen
    rwa [CallPlan.metadataCalls, hmetadata] at h
  -- The look-up sees the files as they are once the managed assembly has been read. Where that
  -- fails, no second call comes about, whatever is chosen.
  by_cases hread : ∃ module now,
      Gives (readAssembly tools request.assembly (work.join ⟨"managed.il"⟩)) w module now
  · obtain ⟨module, now, hnow⟩ := hread
    refine ⟨_, fun path hpath => ⟨now.files, hpath⟩, hfollows _ fun module' now' hnow' => ?_⟩
    rw [(hnow.unique hnow').2]
  · refine ⟨none, by simp, hfollows _ fun module now hnow => ?_⟩
    exact (hread ⟨module, now, hnow⟩).elim

/-- Where a reference has the name of the assembly with the base classes, such a one is taken. What
is taken is documentation exactly where documentation leads those references. Where it does not,
the same is taken whatever documentation is added, left out or moved, as long as none comes to lead.
The build disassembles what is taken, documentation or not. -/
theorem sdkReference?_documentation
    (hsame : other.withoutDocumentation = request.withoutDocumentation) (settings : Settings) :
    (∀ files, request.references.any (isNamed settings.sdkAssembly) = true →
      ∃ path ∈ request.references, isNamed settings.sdkAssembly path = true ∧
        request.sdkReference? settings.sdkAssembly files = some path) ∧
    (∀ files path, request.sdkReference? settings.sdkAssembly files = some path →
      isDocumentation path = request.documentationLeads settings.sdkAssembly) ∧
    (request.documentationLeads settings.sdkAssembly = false → ∀ files,
      (other.sdkReference? settings.sdkAssembly files =
          request.sdkReference? settings.sdkAssembly files ↔
        other.documentationLeads settings.sdkAssembly = false)) ∧
    (request.metadata = .assembly → ∀ tools work w, ∃ chosen : Option Path,
      (∀ path ∈ chosen,
        isDocumentation path = request.documentationLeads settings.sdkAssembly) ∧
      Follows (request.readMetadata settings tools work) w
        (.disassemble request.assembly (work.join ⟨"managed.il"⟩) ::
          (chosen.map fun path => .disassemble path (work.join ⟨"sdk.il"⟩)).toList)) := by
  refine ⟨fun files => exists_sdkReference?_of_any, fun files path =>
    isDocumentation_of_sdkReference?, fun hleads files => ⟨fun heq => ?_, fun hother => ?_⟩,
    fun hmetadata tools work w => ?_⟩
  · obtain hother | hother := Bool.eq_false_or_eq_true (other.documentationLeads _)
    · obtain ⟨path, hpath⟩ := exists_sdkReference?_of_leads hother files
      have hpage := isDocumentation_of_sdkReference? hpath
      have hfile := isDocumentation_of_sdkReference? (heq.symm.trans hpath)
      rw [← hpage, hfile, hleads]
    · exact hother
  · rw [← sdkReference?_withoutDocumentation hother, hsame,
      sdkReference?_withoutDocumentation hleads]
  · obtain ⟨chosen, hchosen, hfollows⟩ :=
      exists_follows_readMetadata hmetadata settings tools work w
    refine ⟨chosen, fun path hpath => ?_, hfollows⟩
    obtain ⟨files, htaken⟩ := hchosen path hpath
    exact isDocumentation_of_sdkReference? htaken

/-! ## A sample -/

/-- The build of an assembly that is disassembled, with the references given. -/
def referring (references : List Path) : BuildRequest :=
  { assembly := ⟨"Sample.dll"⟩
    metadata := .assembly
    templates := []
    references
    output := ⟨"out"⟩
    runtime := none
    name := none
    defaultExtension := none }

/-- Documentation behind the assembly with the base classes makes no difference. -/
theorem sdkReference?_documentation_referring :
    (referring [⟨"lib/TcPluginBase.dll"⟩, ⟨"lib/TcPluginBase.xml"⟩]).sdkReference? "TcPluginBase"
      ⟨[], []⟩ = (referring [⟨"lib/TcPluginBase.dll"⟩]).sdkReference? "TcPluginBase" ⟨[], []⟩ := by
  have hsame : (referring
      [⟨"lib/TcPluginBase.dll"⟩, ⟨"lib/TcPluginBase.xml"⟩]).withoutDocumentation =
        (referring [⟨"lib/TcPluginBase.dll"⟩]).withoutDocumentation := by decide +kernel
  obtain ⟨-, -, hmoved, -⟩ := sdkReference?_documentation hsame SettingsLayer.empty.settings
  exact (hmoved (by decide +kernel) ⟨[], []⟩).2 (by decide +kernel)

/-- A documentation file before the assembly that it is about is disassembled in its place. -/
theorem exists_documentation_taken :
    (referring [⟨"lib/TcPluginBase.xml"⟩, ⟨"lib/TcPluginBase.dll"⟩]).sdkReference? "TcPluginBase"
        ⟨[], []⟩ = some ⟨"lib/TcPluginBase.xml"⟩ ∧
      isDocumentation ⟨"lib/TcPluginBase.xml"⟩ = true ∧
      (referring [⟨"lib/TcPluginBase.dll"⟩, ⟨"lib/TcPluginBase.xml"⟩]).sdkReference? "TcPluginBase"
        ⟨[], []⟩ = some ⟨"lib/TcPluginBase.dll"⟩ ∧
      (referring [⟨"lib/TcPluginBase.dll"⟩]).sdkReference? "TcPluginBase" ⟨[], []⟩ =
        some ⟨"lib/TcPluginBase.dll"⟩ := by
  decide +kernel

end BuildRequest

end PluginBuild
