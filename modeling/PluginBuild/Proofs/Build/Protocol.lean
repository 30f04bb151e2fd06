import PluginBuild.Proofs.Build.Plan
/-!
# The protocol of a build

`BuildRequest.build_protocol` says of every build which calls it makes, that a call that fails is
its last, that no native module is made before all listings have been read, and that a build that is
cancelled, at the start or during a call, fails and publishes nothing.

A cancellation stays, and it is looked for after the assemblies have been read, after the templates
have been read and before the package is published. So a build that gets that far has not been
cancelled before.
-/

namespace PluginBuild

open Files (Path)

/-- Whether a call makes a native module. -/
def ToolCall.makesModule : ToolCall → Bool
  | disassemble .. => false
  | reassemble .. => true

namespace BuildRequest

variable {request : BuildRequest} {settings : Settings} {tools : Toolchain} {work : Path}
  {w w' : World}

/-- The build calls the tools with `call` in the world `v`. -/
def Calls (request : BuildRequest) (settings : Settings) (tools : Toolchain) (work : Path)
    (w v : World) (call : ToolCall) : Prop :=
  Asks (fun tools => request.run settings tools work) tools w v call

/-- The build goes on to publish its package. -/
def Publishes (request : BuildRequest) (settings : Settings) (tools : Toolchain) (work : Path)
    (w : World) : Prop :=
  ∃ staged t, Gives (request.stage settings tools work) w staged t

/-- The build is cancelled before it starts, or during one of the calls that are told. -/
def IsCancelled (request : BuildRequest) (settings : Settings) (tools : Toolchain) (work : Path)
    (w : World) (during : ToolCall → Prop) : Prop :=
  w.cancelled = true ∨ ∃ v call, during call ∧ request.Calls settings tools work w v call ∧
    (tools v call).cancelled = true

theorem steps_finish (request : BuildRequest) (settings : Settings) (work : Path)
    (p : Preparation) :
    Steps (Makes work p) (fun _ _ => True) fun tools => request.finish settings tools work p := by
  unfold finish
  refine .bind ((steps_assemble request settings work p).mono (fun _ h => h)
    fun _ _ _ => trivial) fun _ => ?_
  exact .bind (.onFiles fun _ => trivial) fun _ => .pure _

theorem steps_run (request : BuildRequest) (settings : Settings) (work : Path) :
    Steps (fun _ => True) (fun _ _ => True) fun tools => request.run settings tools work := by
  simp only [run_eq_prepare_bind]
  refine .bind ((steps_prepare request settings work).mono (fun _ _ => trivial)
    fun _ _ _ => trivial) fun p => ?_
  exact (steps_finish request settings work p).mono (fun _ _ => trivial) fun _ _ _ => trivial

theorem cancelled_of_gives_prepare {p : Preparation}
    (h : Gives (request.prepare settings tools work) w p w') : w'.cancelled = false := by
  unfold prepare at h
  simp only [Gives.bind_iff, Gives.checkpoint_iff, Gives.pure_iff] at h
  obtain ⟨_, _, -, _, _, -, _, _, ⟨hcancelled, rfl⟩, -, rfl⟩ := h
  exact hcancelled

theorem cancelled_of_gives_stage {staged : Preparation × BuildOutcome}
    (h : Gives (request.stage settings tools work) w staged w') : w'.cancelled = false := by
  unfold stage assemble at h
  simp only [Gives.bind_iff, Gives.checkpoint_iff, Gives.pure_iff] at h
  obtain ⟨_, _, -, _, _, ⟨_, _, -, _, _, -, _, _, -, _, _, -, _, _, ⟨hcancelled, rfl⟩, -, rfl⟩, -,
    rfl⟩ := h
  exact hcancelled

/-- A build that is cancelled has not gone on to publish: the last thing before that is to see
whether it has been cancelled. -/
theorem not_publishes_of_isCancelled {during : ToolCall → Prop}
    (h : request.IsCancelled settings tools work w during) :
    ¬request.Publishes settings tools work w := by
  rintro ⟨⟨p, outcome⟩, t, hstaged⟩
  have hlast : ((request.run settings tools work).run w).2.cancelled = true := by
    rcases h with hw | ⟨v, call, -, hcall, hcancelled⟩
    · exact ((steps_run request settings work).precedes tools w).cancelled hw
    · obtain ⟨-, -, hafter, -⟩ := (steps_run request settings work).facts_of_asks hcall
      exact hafter.cancelled (by simp [World.after, hcancelled])
  rw [run_eq_stage_bind, Gives.run_bind_of_gives hstaged] at hlast
  have ht : t.cancelled = false := cancelled_of_gives_stage hstaged
  have hpublish : EndsIn (fun u => u.cancelled = false) (do
      BuildAction.onFiles (Package.publish (request.stagedPath work p) outcome.archive)
      return outcome) t :=
    .bind (.onFiles ht) fun _ _ _ h => .pure h
  rw [EndsIn, hlast] at hpublish
  cases hpublish

theorem publishes_of_gives_run {outcome : BuildOutcome}
    (h : Gives (request.run settings tools work) w outcome w') :
    request.Publishes settings tools work w := by
  rw [run_eq_stage_bind, Gives.bind_iff] at h
  obtain ⟨staged, t, hstaged, -⟩ := h
  exact ⟨staged, t, hstaged⟩

/-- A build that is cancelled before it makes native modules has not read its templates in full: the
last thing in reading them is to see whether it has been cancelled. -/
theorem not_gives_prepare_of_isCancelled
    (h : request.IsCancelled settings tools work w (·.makesModule = false)) (p : Preparation)
    (now : World) : ¬Gives (request.prepare settings tools work) w p now := by
  intro hp
  have hprepare := steps_prepare request settings work
  have hlast : ((request.prepare settings tools work).run w).2.cancelled = true := by
    rcases h with hw | ⟨v, call, hreads, hcall, hcancelled⟩
    · exact (hprepare.precedes tools w).cancelled hw
    · simp only [Calls, run_eq_prepare_bind] at hcall
      rcases hprepare.asks_bind hcall with hcall | ⟨p, t, -, hcall⟩
      · obtain ⟨-, -, hafter, -⟩ := hprepare.facts_of_asks hcall
        exact hafter.cancelled (by simp [World.after, hcancelled])
      · obtain ⟨⟨source, resource, a, rfl⟩, -⟩ :=
          (steps_finish request settings work p).facts_of_asks hcall
        cases hreads
  rw [hp, cancelled_of_gives_prepare hp] at hlast
  cases hlast

/-- A native module is made only once the templates have been read. -/
theorem exists_gives_prepare_of_makesModule {made : List ToolCall} {call : ToolCall}
    (hmade : ((request.run settings tools work).run w).2.calls = w.calls ++ made)
    (hcall : call ∈ made) (hmakes : call.makesModule = true) :
    ∃ p now, Gives (request.prepare settings tools work) w p now := by
  rcases hrun : (request.prepare settings tools work).run w with ⟨e | p, now⟩
  · rw [run_eq_prepare_bind, Gives.run_bind_of_error hrun] at hmade
    obtain ⟨read, hread, hall⟩ := (steps_prepare request settings work).exists_calls_eq tools w
    rw [hrun, hmade] at hread
    obtain rfl := List.append_cancel_left hread
    obtain ⟨module, name, -, rfl⟩ := hall call hcall
    cases hmakes
  · exact ⟨p, now, hrun⟩

/-- The calls of a build are the first ones of its plan. Each is made in the world with the calls
before it, and one that fails is the last one and fails the build. No native module is made before
all templates that are kept have been read and their listings taken apart. A build that is
cancelled, before it starts or during a call, fails and does not publish, and makes no native module
if it was cancelled before the first of them. -/
theorem build_protocol (request : BuildRequest) (settings : Settings) (tools : Toolchain)
    (work : Path) (w : World) :
    ∃ plan making made, request.Plans settings tools work w plan ∧
      MakesEach work plan.output (plan.kept request.templates.zipIdx) making ∧
      (request.build settings tools work w).2.calls = w.calls ++ made ∧
      made <+: plan.readingCalls request work ++ making ∧
      (∀ before call after, made = before ++ call :: after →
        ∃ v, request.Calls settings tools work w v call ∧ v.calls = w.calls ++ before ∧
          ∀ e, (tools v call).result = .error e →
            after = [] ∧ (request.build settings tools work w).1 = .error e) ∧
      ((∃ call ∈ made, call.makesModule = true) →
        ∃ p now, Gives (request.prepare settings tools work) w p now ∧
          p.kept.map (·.template) = plan.kept request.templates.zipIdx ∧
          ∀ before m after, p.kept = before ++ m :: after →
            ∃ text, request.Reads settings tools work w before.length m.template text ∧
              Listing.Outline.ofText text = .ok m.outline) ∧
      (request.IsCancelled settings tools work w (fun _ => True) →
        (∃ e, (request.build settings tools work w).1 = .error e) ∧
          ¬request.Publishes settings tools work w) ∧
      (request.IsCancelled settings tools work w (·.makesModule = false) →
        ∀ call ∈ made, call.makesModule = false) := by
  obtain ⟨plan, making, hplan, hmakes, made, hmade, hcalls, -⟩ :=
    request.exists_plan settings tools work w
  obtain ⟨hresult, hbuilt, -⟩ := request.build_eq settings tools work w
  have hsteps := steps_run request settings work
  refine ⟨plan, making, made, hplan, hmakes, hbuilt.trans hmade, hcalls, ?_, ?_,
    fun hcancelled => ?_, fun hcancelled call hcall => ?_⟩
  · rintro before call after rfl
    obtain ⟨v, hasks, hv⟩ := hsteps.exists_asks hmade
    refine ⟨v, hasks, hv, fun e he => ?_⟩
    have hends := (hsteps.facts_of_asks hasks).2.2.2 e he
    refine ⟨?_, by rw [hresult, hends]⟩
    -- The build ended in the world after this call.
    rw [hends, World.after, hv] at hmade
    simpa using hmade
  · rintro ⟨call, hcall, hmodule⟩
    obtain ⟨p, now, hp⟩ := exists_gives_prepare_of_makesModule hmade hcall hmodule
    exact ⟨p, now, hp, (follows_prepare hplan).2 p now hp, fun before m after hkept =>
      exists_reads_of_gives_prepare hp hkept⟩
  · have hpublishes := not_publishes_of_isCancelled hcancelled
    refine ⟨?_, hpublishes⟩
    rcases hbuild : (request.build settings tools work w).1 with e | outcome
    · exact ⟨e, rfl⟩
    · have hrun : Gives (request.run settings tools work) w outcome _ :=
        Prod.ext (hresult.symm.trans hbuild) rfl
      exact (hpublishes (publishes_of_gives_run hrun)).elim
  · rcases hmodule : call.makesModule with _ | _
    · rfl
    · obtain ⟨p, now, hp⟩ := exists_gives_prepare_of_makesModule hmade hcall hmodule
      exact (not_gives_prepare_of_isCancelled hcancelled p now hp).elim

end BuildRequest

end PluginBuild
