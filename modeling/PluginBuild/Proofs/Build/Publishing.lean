import PluginBuild.Build.Run
import PluginBuild.Proofs.Build.Ending
import PluginBuild.Proofs.Files.Target
/-!
# Publishing comes last

A build is a part that makes the package in the directory of the build, and the publication of the
package (`run_eq_stage_bind`). After that only the directory of the build is cleared away, which
changes neither what the build leads to nor the calls that it has made.
-/

namespace PluginBuild

open Files (Path Store)

namespace BuildRequest

variable {request : BuildRequest} {settings : Settings} {tools : Toolchain} {work : Path}
  {w : World}

/-- The files outside of the directory `work` are the same in both stores. -/
def Confined (work : Path) (s s' : Store) : Prop :=
  Store.AgreesOn (fun location => ¬s.target work <+: location) s s'

theorem Confined.refl (work : Path) (s : Store) : Confined work s s := Store.AgreesOn.refl _ s

theorem Confined.trans {s s' s'' : Store} (h : Confined work s s') (h' : Confined work s' s'') :
    Confined work s s'' := by
  rw [Confined, Store.target_congr h.workingDirectory] at h'
  exact Store.AgreesOn.trans h h'

/-- The file of the package in the directory of the build. -/
def stagedPath (request : BuildRequest) (work : Path) (p : Preparation) : Path :=
  work.join ⟨Package.archiveName p.name request.runtime⟩

/-- What a build that succeeds leads to. -/
def outcomeOf (request : BuildRequest) (p : Preparation) (written : List WrittenModule)
    (report : Package.Report) : BuildOutcome :=
  let archive := request.output.join ⟨Package.archiveName p.name request.runtime⟩
  { archive
    generated := [archive]
    analysis := p.analysis
    modules := written.map fun module => ⟨module.template.architecture, module.removal⟩
    package := { report with archive } }

/-- What the build does of what it has read, as far as the package has been made. -/
def assemble (request : BuildRequest) (settings : Settings) (tools : Toolchain) (work : Path)
    (p : Preparation) : BuildAction BuildOutcome := do
  let written ← writeKept work p
  let modules ← written.mapM (reassemble tools work p)
  BuildAction.checkpoint
  let inputs : Package.Inputs :=
    { modules
      managed := request.assembly
      references := request.references
      manifest := .ofModule p.analysis.decision.kind p.name p.module request.defaultExtension }
  let report ← BuildAction.onFiles
    (Package.build settings.sdkAssembly inputs (request.stagedPath work p))
  BuildAction.checkpoint
  return request.outcomeOf p written report

/-- The build as far as the package has been made and nothing has been published. -/
def stage (request : BuildRequest) (settings : Settings) (tools : Toolchain) (work : Path) :
    BuildAction (Preparation × BuildOutcome) := do
  let p ← request.prepare settings tools work
  let outcome ← request.assemble settings tools work p
  return (p, outcome)

/-- The build publishes the package when all else has been done. -/
theorem run_eq_stage_bind (request : BuildRequest) (settings : Settings) (tools : Toolchain)
    (work : Path) :
    request.run settings tools work = (do
      let (p, outcome) ← request.stage settings tools work
      BuildAction.onFiles (Package.publish (request.stagedPath work p) outcome.archive)
      return outcome) := by
  unfold run stage assemble pack
  simp only [bind_assoc, pure_bind]
  rfl

/-- What the build does of what it has read. -/
def finish (request : BuildRequest) (settings : Settings) (tools : Toolchain) (work : Path)
    (p : Preparation) : BuildAction BuildOutcome := do
  let outcome ← request.assemble settings tools work p
  BuildAction.onFiles (Package.publish (request.stagedPath work p) outcome.archive)
  return outcome

theorem run_eq_prepare_bind (request : BuildRequest) (settings : Settings) (tools : Toolchain)
    (work : Path) :
    request.run settings tools work =
      request.prepare settings tools work >>= request.finish settings tools work := by
  rw [run_eq_stage_bind]
  unfold stage finish
  simp only [bind_assoc, pure_bind]

/-- Clearing away the directory of the build changes neither its outcome nor its calls, and no file
outside of the directory. -/
theorem build_eq (request : BuildRequest) (settings : Settings) (tools : Toolchain) (work : Path)
    (w : World) :
    (request.build settings tools work w).1 = ((request.run settings tools work).run w).1 ∧
      (request.build settings tools work w).2.calls =
        ((request.run settings tools work).run w).2.calls ∧
      Confined work ((request.run settings tools work).run w).2.files
        (request.build settings tools work w).2.files := by
  rcases hrun : (request.run settings tools work).run w with ⟨result, after⟩
  rw [build, hrun]
  dsimp only
  rcases hl : after.files.locate work with _ | place
  · exact ⟨rfl, rfl, .refl work after.files⟩
  · refine ⟨rfl, rfl, rfl, fun location hlocation => Store.file?_removeTree ?_⟩
    rwa [Store.eq_target_of_locate hl]

end BuildRequest

end PluginBuild
