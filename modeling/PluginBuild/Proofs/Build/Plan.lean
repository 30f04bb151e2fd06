import Mathlib.Data.List.Forall2
import PluginBuild.Proofs.Build.Calls
/-!
# The plan of the calls

Which calls a build makes, in which order, is settled by what it finds on the way (`CallPlan`):
the assemblies are disassembled first, then the templates that are there, and then the native
modules are made. A build that fails stops somewhere in its plan (`BuildRequest.exists_plan`).
-/

namespace PluginBuild

open Files (Path Store)

/-- What a build finds out on which its calls depend. -/
structure CallPlan where
  /-- The assembly with the base classes. -/
  sdk : Option Path
  /-- Whether the template with a number is there. -/
  found : Nat → Bool
  /-- The files of the native modules that are made. -/
  output : Architecture → Path

namespace CallPlan

variable (plan : CallPlan) (request : BuildRequest) (work : Path)

/-- Whether a template is kept: all but the first are passed over where they are missing, unless
they are listings. -/
def keeps (entry : Template × Nat) : Bool :=
  entry.1.isListing || entry.2 == 0 || plan.found entry.2

/-- The templates that are kept, in their order. -/
def kept (entries : List (Template × Nat)) : List Template := (entries.filter plan.keeps).map (·.1)

/-- The calls that read the assemblies. -/
def metadataCalls : List ToolCall :=
  match request.metadata with
  | .dump _ => []
  | .listings _ _ => []
  | .assembly =>
    .disassemble request.assembly (work.join ⟨"managed.il"⟩) ::
      (plan.sdk.map fun sdk => .disassemble sdk (work.join ⟨"sdk.il"⟩)).toList

/-- The calls that read templates. -/
def templateCalls (entries : List (Template × Nat)) : List ToolCall :=
  ((plan.kept entries).filter fun t => !t.isListing).map (·.disassembleCall work)

/-- The calls that read assemblies and templates, in their order. -/
def readingCalls : List ToolCall :=
  plan.metadataCalls request work ++ plan.templateCalls work request.templates.zipIdx

theorem kept_cons (entry : Template × Nat) (entries : List (Template × Nat)) :
    plan.kept (entry :: entries) = plan.kept [entry] ++ plan.kept entries := by
  by_cases h : plan.keeps entry <;> simp [kept, h]

theorem templateCalls_cons (entry : Template × Nat) (entries : List (Template × Nat)) :
    plan.templateCalls work (entry :: entries) =
      plan.templateCalls work [entry] ++ plan.templateCalls work entries := by
  simp only [templateCalls, plan.kept_cons entry entries, List.filter_append, List.map_append]

end CallPlan

namespace BuildRequest

variable {request : BuildRequest} {settings : Settings} {tools : Toolchain} {work : Path}
  {w now : World} {plan : CallPlan}

/-- The build has read the listing of the managed assembly. -/
def ReadsManaged (request : BuildRequest) (tools : Toolchain) (work : Path) (w now : World) :
    Prop :=
  ∃ made module, Gives (BuildAction.onFiles (FileAction.makeDirectories work)) w () made ∧
    Gives (readAssembly tools request.assembly (work.join ⟨"managed.il"⟩)) made module now

/-- The build comes to the template with a number, after it has read those before. -/
def Turn (request : BuildRequest) (settings : Settings) (tools : Toolchain) (work : Path)
    (w : World) (index : Nat) (now : World) : Prop :=
  ∃ assembly analysed kept, Gives (request.analyse settings tools work) w assembly analysed ∧
    Gives ((request.templates.zipIdx.take index).filterMapM (readTemplate tools work)) analysed
      kept now

/-- The plan is what the build finds out, as far as it comes to find it out. -/
structure Plans (request : BuildRequest) (settings : Settings) (tools : Toolchain) (work : Path)
    (w : World) (plan : CallPlan) : Prop where
  sdk : ∀ now, request.ReadsManaged tools work w now →
    plan.sdk = request.sdkReference? settings.sdkAssembly now.files
  found : ∀ index t now, request.templates[index]? = some t →
    request.Turn settings tools work w index now → plan.found index = now.files.contains t.path
  output : ∀ p now, Gives (request.prepare settings tools work) w p now →
    plan.output = p.outputPath work

/-- One native module is made of each of the templates, in their order. -/
def MakesEach (work : Path) (output : Architecture → Path) (templates : List Template)
    (calls : List ToolCall) : Prop :=
  List.Forall₂ (fun t call => ∃ resource, call =
    .reassemble (t.trimmedPath work) (output t.architecture) resource t.architecture)
    templates calls

/-! ## Reading -/

theorem follows_readAssembly (tools : Toolchain) (assembly output : Path) (w : World) :
    Follows (readAssembly tools assembly output) w [.disassemble assembly output] := by
  unfold readAssembly
  exact .bind_left (.call tools _ w) fun _ _ _ => .of_eq rfl

theorem follows_readMetadata
    (hsdk : ∀ module t, Gives (readAssembly tools request.assembly (work.join ⟨"managed.il"⟩)) w
      module t → plan.sdk = request.sdkReference? settings.sdkAssembly t.files) :
    Follows (request.readMetadata settings tools work) w (plan.metadataCalls request work) := by
  unfold readMetadata CallPlan.metadataCalls
  cases request.metadata with
  | dump path => exact .bind_right (.of_eq rfl) fun _ _ _ => .of_eq rfl
  | listings module references =>
    have hlisting : ∀ path, Steps (fun _ => False) (fun _ _ => True) fun _ => readListing path :=
      steps_readListing fun _ => trivial
    refine .bind_right (.of_steps (hlisting module) tools w) fun _ t _ => ?_
    exact .bind_right (.of_steps (.mapM fun path _ => hlisting path) tools t) fun _ _ _ =>
      .of_eq rfl
  | assembly =>
    refine .bind (follows_readAssembly tools _ _ w) fun module t ht => ?_
    rw [hsdk module t ht]
    refine .bind_right (.of_eq rfl) fun sdk t' hask => ?_
    obtain ⟨rfl, rfl⟩ := Gives.ask_iff.1 hask
    cases request.sdkReference? settings.sdkAssembly t'.files with
    | none => exact .of_eq rfl
    | some sdk => exact .bind_left (follows_readAssembly tools _ _ t') fun _ _ _ => .of_eq rfl

theorem follows_analyse (hplan : request.Plans settings tools work w plan) :
    Follows (request.analyse settings tools work) w (plan.metadataCalls request work) := by
  have hread : Follows (do
      BuildAction.onFiles (FileAction.makeDirectories work)
      let dump ← request.readMetadata settings tools work
      BuildAction.checkpoint
      let analysis ← (Analysis.ofDump dump : BuildAction Analysis)
      BuildAction.checkpoint
      return (dump.module, analysis)) w (plan.metadataCalls request work) := by
    refine .bind_right (.of_eq rfl) fun _ made hmade => ?_
    refine .bind_left (follows_readMetadata fun module t ht => ?_) fun dump t _ => ?_
    · exact hplan.sdk t ⟨made, module, hmade, ht⟩
    refine .bind_right (.checkpoint t) fun _ t' _ => .bind_right (.of_eq rfl) fun _ u _ => ?_
    exact .bind_right (.checkpoint u) fun _ _ _ => .of_eq rfl
  unfold analyse
  refine .bind_right (.of_eq rfl) fun found _ hask => ?_
  obtain ⟨rfl, rfl⟩ := Gives.ask_iff.1 hask
  dsimp only
  split
  · exact .of_error rfl rfl
  split
  · exact .of_error rfl rfl
  · exact hread

/-- A template that is no listing is kept if it is the first or is there. -/
theorem keeps_iff {t : Template} {index : Nat} (hlisting : ¬t.isListing = true)
    (hfound : plan.found index = w.files.contains t.path) :
    plan.keeps (t, index) = true ↔ ¬(0 < index ∧ (!w.files.contains t.path) = true) := by
  rw [CallPlan.keeps, Bool.eq_false_iff.2 hlisting, hfound]
  cases index <;> simp

theorem follows_readTemplate {t : Template} {index : Nat}
    (hfound : plan.found index = w.files.contains t.path) :
    Follows (readTemplate tools work (t, index)) w (plan.templateCalls work [(t, index)]) := by
  have houtline : ∀ listing u, Follows (do
      let outline ← readOutline listing
      return some (⟨t, outline⟩ : ReadModule)) u [] := by
    intro listing u
    exact .bind_right (.of_steps (steps_readOutline listing) tools u) fun _ _ _ => .of_eq rfl
  unfold readTemplate
  dsimp only
  split
  case isTrue hlisting =>
    have hcalls : plan.templateCalls work [(t, index)] = [] := by
      simp [CallPlan.templateCalls, CallPlan.kept, CallPlan.keeps, hlisting]
    rw [hcalls]
    refine .bind_right (.of_steps (steps_readInput (fun _ => trivial) t.path) tools w) ?_
    exact fun listing u _ => houtline listing u
  case isFalse hlisting =>
    have hkeeps := keeps_iff hlisting hfound
    refine .bind_right (.of_eq rfl) fun found _ hask => ?_
    obtain ⟨rfl, rfl⟩ := Gives.ask_iff.1 hask
    split
    case isTrue hmissing =>
      have hcalls : plan.templateCalls work [(t, index)] = [] := by
        simp [CallPlan.templateCalls, CallPlan.kept, mt hkeeps.1 (not_not_intro hmissing)]
      rw [hcalls]
      exact .of_eq rfl
    case isFalse hthere =>
      have hcalls : plan.templateCalls work [(t, index)] = [t.disassembleCall work] := by
        simp [CallPlan.templateCalls, CallPlan.kept, hkeeps.2 hthere, hlisting]
      rw [hcalls]
      exact .bind_left (.call tools _ _) fun listing u _ => houtline listing u

/-- What is read of a template is kept if the template is. -/
theorem kept_of_gives_readTemplate {t : Template} {index : Nat} {m : Option ReadModule} {w' : World}
    (hfound : plan.found index = w.files.contains t.path)
    (h : Gives (readTemplate tools work (t, index)) w m w') :
    m.toList.map (·.template) = plan.kept [(t, index)] := by
  unfold readTemplate at h
  simp only [Gives.ite_iff, Gives.bind_iff, Gives.pure_iff, Gives.ask_iff] at h
  rcases h with ⟨hlisting, _, _, -, _, _, -, rfl, rfl⟩ |
    ⟨hlisting, _, _, ⟨rfl, rfl⟩, ⟨hmissing, rfl, rfl⟩ | ⟨hthere, _, _, -, _, _, -, rfl, rfl⟩⟩
  · simp [CallPlan.kept, CallPlan.keeps, hlisting]
  · have hkeeps := (keeps_iff hlisting hfound).not.2 (not_not_intro hmissing)
    simp [CallPlan.kept, hkeeps]
  · simp [CallPlan.kept, (keeps_iff hlisting hfound).2 hthere]

/-- What is read of templates is read in their order. -/
theorem follows_readTemplates {entries : List (Template × Nat)}
    (hfound : ∀ front t index back, entries = front ++ (t, index) :: back → ∀ kept now,
      Gives (front.filterMapM (readTemplate tools work)) w kept now →
        plan.found index = now.files.contains t.path) :
    Follows (entries.filterMapM (readTemplate tools work)) w (plan.templateCalls work entries) ∧
      ∀ kept now, Gives (entries.filterMapM (readTemplate tools work)) w kept now →
        kept.map (·.template) = plan.kept entries := by
  induction entries generalizing w with
  | nil =>
    refine ⟨.of_eq rfl, fun kept now h => ?_⟩
    obtain ⟨rfl, -⟩ := Gives.pure_iff.1 h
    rfl
  | cons entry entries ih =>
    obtain ⟨t, index⟩ := entry
    have hfirst : plan.found index = w.files.contains t.path :=
      hfound [] t index entries rfl [] w (Gives.pure_iff.2 ⟨rfl, rfl⟩)
    have hrest : ∀ m next, Gives (readTemplate tools work (t, index)) w m next →
        Follows (entries.filterMapM (readTemplate tools work)) next
            (plan.templateCalls work entries) ∧
          ∀ kept now, Gives (entries.filterMapM (readTemplate tools work)) next kept now →
            kept.map (·.template) = plan.kept entries := by
      intro m next hm
      refine ih fun front t' index' back heq kept now hkept => ?_
      -- A template before those of `entries` is one more before each of them.
      have hback : (t, index) :: entries = (t, index) :: front ++ (t', index') :: back := by
        rw [heq]
        rfl
      refine hfound ((t, index) :: front) t' index' back hback (m.toList ++ kept) now ?_
      rw [List.filterMapM_cons, Gives.bind_iff]
      refine ⟨m, next, hm, ?_⟩
      cases m with
      | none => exact hkept
      | some m => exact Gives.bind_iff.2 ⟨kept, now, hkept, Gives.pure_iff.2 ⟨rfl, rfl⟩⟩
    rw [List.filterMapM_cons, plan.templateCalls_cons, plan.kept_cons]
    refine ⟨.bind (follows_readTemplate hfirst) fun m next hm => ?_, fun kept now h => ?_⟩
    · cases m with
      | none => exact (hrest none next hm).1
      | some m => exact .bind_left (hrest _ next hm).1 fun _ _ _ => .of_eq rfl
    · obtain ⟨m, next, hm, h⟩ := Gives.bind_iff.1 h
      rw [← kept_of_gives_readTemplate hfirst hm]
      cases m with
      | none => exact (hrest none next hm).2 kept now h
      | some m =>
        obtain ⟨rest, _, hkept, heq⟩ := Gives.bind_iff.1 h
        obtain ⟨rfl, rfl⟩ := Gives.pure_iff.1 heq
        rw [List.map_cons, (hrest _ next hm).2 rest _ hkept]
        rfl

/-- The templates are read as the plan has it, and those that the plan has are kept. -/
theorem follows_prepare (hplan : request.Plans settings tools work w plan) :
    Follows (request.prepare settings tools work) w (plan.readingCalls request work) ∧
      ∀ p now, Gives (request.prepare settings tools work) w p now →
        p.kept.map (·.template) = plan.kept request.templates.zipIdx := by
  have hread : ∀ assembly analysed,
      Gives (request.analyse settings tools work) w assembly analysed →
      Follows (request.templates.zipIdx.filterMapM (readTemplate tools work)) analysed
          (plan.templateCalls work request.templates.zipIdx) ∧
        ∀ kept now, Gives (request.templates.zipIdx.filterMapM (readTemplate tools work)) analysed
          kept now → kept.map (·.template) = plan.kept request.templates.zipIdx := by
    intro assembly analysed hanalyse
    refine follows_readTemplates fun front t index back heq kept now hkept => ?_
    -- The number of a template is that of the templates before it.
    have hat : request.templates.zipIdx[front.length]? = some (t, index) := by
      rw [heq, List.getElem?_append_right (Nat.le_refl _), Nat.sub_self, List.getElem?_cons_zero]
    simp only [List.getElem?_zipIdx, Option.map_eq_some_iff, Nat.zero_add, Prod.mk.injEq] at hat
    obtain ⟨_, hat, rfl, rfl⟩ := hat
    refine hplan.found _ _ now hat ⟨assembly, analysed, kept, hanalyse, ?_⟩
    rwa [heq, List.take_left]
  unfold prepare
  refine ⟨.bind (follows_analyse hplan) fun assembly analysed h => ?_, fun p now h => ?_⟩
  · refine .bind_left (hread assembly analysed h).1 fun _ t _ => ?_
    exact .bind_right (.checkpoint t) fun _ _ _ => .of_eq rfl
  · simp only [Gives.bind_iff, Gives.checkpoint_iff, Gives.pure_iff] at h
    obtain ⟨assembly, analysed, hanalyse, kept, t, hkept, -, -, -, rfl, -⟩ := h
    exact (hread assembly analysed hanalyse).2 kept t hkept

/-! ## Making -/

theorem exists_makesEach (work : Path) (output : Architecture → Path) (templates : List Template) :
    ∃ calls, MakesEach work output templates calls := by
  refine ⟨templates.map fun t =>
    .reassemble (t.trimmedPath work) (output t.architecture) none t.architecture, ?_⟩
  exact List.forall₂_map_right_iff.2 (List.forall₂_same.2 fun t _ => ⟨none, rfl⟩)

/-- The calls that make native modules depend on the files that there are at each of them. -/
theorem exists_follows_reassembles (tools : Toolchain) (work : Path) (p : Preparation)
    (modules : List ReadModule) (w : World) :
    ∃ calls, MakesEach work (p.outputPath work) (modules.map (·.template)) calls ∧
      Follows ((modules.map (·.written p.analysis.decision work)).mapM (reassemble tools work p)) w
        calls := by
  induction modules generalizing w with
  | nil => exact ⟨[], .nil, .of_eq rfl⟩
  | cons m modules ih =>
    let call := reassembleCall work p (m.written p.analysis.decision work) w.files
    obtain ⟨calls, heach, hfollows⟩ := ih (w.after call (tools w call))
    refine ⟨call :: calls, .cons ⟨_, rfl⟩ heach, ?_⟩
    have hfirst :
        Follows (reassemble tools work p (m.written p.analysis.decision work)) w [call] := by
      unfold reassemble
      refine .bind_right (.of_eq rfl) fun asked _ hask => ?_
      obtain ⟨rfl, rfl⟩ := Gives.ask_iff.1 hask
      exact .bind_left (.call tools _ _) fun _ _ _ => .of_eq rfl
    rw [List.map_cons, List.mapM_cons]
    refine .bind hfirst fun x t hx => ?_
    obtain ⟨-, -, rfl⟩ := gives_reassemble_iff.1 hx
    exact .bind_left hfollows fun _ _ _ => .of_eq rfl

theorem exists_follows_assemble (request : BuildRequest) (settings : Settings) (tools : Toolchain)
    (work : Path) (p : Preparation) (w : World) :
    ∃ calls, MakesEach work (p.outputPath work) (p.kept.map (·.template)) calls ∧
      Follows (request.assemble settings tools work p) w calls := by
  have hwrite : Follows (writeKept work p) w [] :=
    .of_steps ((steps_writeKept work p).mono (fun _ h => h) fun _ _ _ => trivial) tools w
  unfold assemble
  rcases hrun : (writeKept work p).run w with ⟨e | written, t⟩
  · obtain ⟨calls, heach⟩ := exists_makesEach work (p.outputPath work) (p.kept.map (·.template))
    refine ⟨calls, heach, .bind_right hwrite fun written t ht => ?_⟩
    rw [Gives, hrun] at ht
    cases ht
  · obtain ⟨calls, heach, hfollows⟩ := exists_follows_reassembles tools work p p.kept t
    refine ⟨calls, heach, .bind_right hwrite fun written' t' ht => ?_⟩
    obtain ⟨rfl, rfl⟩ := Gives.unique hrun ht
    rw [(eq_map_of_gives_writeKept ht).1]
    refine .bind_left hfollows fun modules u _ => .bind_right (.checkpoint u) fun _ u' _ => ?_
    refine .bind_right (.of_eq rfl) fun report u'' _ => ?_
    exact .bind_right (.checkpoint u'') fun _ _ _ => .of_eq rfl

/-! ## The whole build -/

/-- Where at most one thing has a property, what is to be said of it can be said beforehand. -/
theorem exists_eq_of_unique {ι β : Type} {Q : ι → Prop} (b : β) (f : ι → β)
    (hQ : ∀ i j, Q i → Q j → i = j) : ∃ b, ∀ i, Q i → b = f i := by
  by_cases h : ∃ i, Q i
  · obtain ⟨i, hi⟩ := h
    exact ⟨f i, fun j hj => by rw [hQ i j hi hj]⟩
  · exact ⟨b, fun i hi => (h ⟨i, hi⟩).elim⟩

theorem ReadsManaged.unique {t t' : World} (h : request.ReadsManaged tools work w t)
    (h' : request.ReadsManaged tools work w t') : t = t' := by
  obtain ⟨made, module, hmade, hread⟩ := h
  obtain ⟨made', module', hmade', hread'⟩ := h'
  obtain ⟨-, rfl⟩ := hmade.unique hmade'
  exact (hread.unique hread').2

theorem Turn.unique {index : Nat} {t t' : World} (h : request.Turn settings tools work w index t)
    (h' : request.Turn settings tools work w index t') : t = t' := by
  obtain ⟨assembly, analysed, kept, hanalyse, hread⟩ := h
  obtain ⟨assembly', analysed', kept', hanalyse', hread'⟩ := h'
  obtain ⟨-, rfl⟩ := hanalyse.unique hanalyse'
  exact (hread.unique hread').2

theorem exists_plans (request : BuildRequest) (settings : Settings) (tools : Toolchain)
    (work : Path) (w : World) : ∃ plan, request.Plans settings tools work w plan := by
  obtain ⟨sdk, hsdk⟩ := exists_eq_of_unique none
    (fun now : World => request.sdkReference? settings.sdkAssembly now.files)
    fun t t' (h : request.ReadsManaged tools work w t) h' => h.unique h'
  have hfound : ∀ index, ∃ found : Bool, ∀ now, request.Turn settings tools work w index now →
      found = request.templates[index]?.any (now.files.contains ·.path) :=
    fun index => exists_eq_of_unique false _ fun t t' => Turn.unique
  obtain ⟨found, hfound⟩ := Classical.skolem.1 hfound
  obtain ⟨output, houtput⟩ := exists_eq_of_unique
    (Q := fun p => ∃ now, Gives (request.prepare settings tools work) w p now)
    (fun _ => work) (fun p => p.outputPath work) fun p p' ⟨now, h⟩ ⟨now', h'⟩ => (h.unique h').1
  refine ⟨⟨sdk, found, output⟩, hsdk, fun index t now ht hturn => ?_,
    fun p now h => houtput p ⟨now, h⟩⟩
  have hany := hfound index now hturn
  rwa [ht, Option.any_some] at hany

/-- There is a plan for every build, and the build follows it. -/
theorem exists_plan (request : BuildRequest) (settings : Settings) (tools : Toolchain)
    (work : Path) (w : World) :
    ∃ plan making, request.Plans settings tools work w plan ∧
      MakesEach work plan.output (plan.kept request.templates.zipIdx) making ∧
      Follows (request.run settings tools work) w (plan.readingCalls request work ++ making) := by
  obtain ⟨plan, hplan⟩ := request.exists_plans settings tools work w
  obtain ⟨hprepare, hkept⟩ := follows_prepare hplan
  obtain ⟨making, hmakes, hassemble⟩ : ∃ making,
      MakesEach work plan.output (plan.kept request.templates.zipIdx) making ∧ ∀ p now,
        Gives (request.prepare settings tools work) w p now →
          Follows (request.assemble settings tools work p) now making := by
    rcases hrun : (request.prepare settings tools work).run w with ⟨e | p, now⟩
    · obtain ⟨making, heach⟩ :=
        exists_makesEach work plan.output (plan.kept request.templates.zipIdx)
      refine ⟨making, heach, fun p now hp => ?_⟩
      rw [Gives, hrun] at hp
      cases hp
    · obtain ⟨making, heach, hfollows⟩ := exists_follows_assemble request settings tools work p now
      rw [hkept p now hrun, ← hplan.output p now hrun] at heach
      refine ⟨making, heach, fun p' now' hp => ?_⟩
      obtain ⟨rfl, rfl⟩ := Gives.unique hrun hp
      exact hfollows
  refine ⟨plan, making, hplan, hmakes, ?_⟩
  rw [run_eq_stage_bind, stage]
  refine .bind_left (.bind hprepare fun p now hp => ?_) fun staged t _ => ?_
  · exact .bind_left (hassemble p now hp) fun _ _ _ => .of_eq rfl
  · exact .bind_right (.of_eq rfl) fun _ _ _ => .of_eq rfl

end BuildRequest

end PluginBuild
