import PluginBuild.Build.Run
import PluginBuild.Proofs.Build.Ending
import PluginBuild.Proofs.Build.Publishing
import PluginBuild.Proofs.Build.Reassembly
import PluginBuild.Proofs.Files.Target
/-!
# What a build is put together of

A build changes files and calls tools, one step after the other (`Steps`). Which calls and which
changes there are in it is told once, function by function, up to the two parts of a build
(`BuildRequest.steps_prepare`, `BuildRequest.steps_assemble`); what all of them keep, the build
keeps (`Steps.endsIn`).
-/

namespace PluginBuild

open Files (Path Store)

/-- The action, for any tools, is put together of calls that `C` allows, of actions on files that
change them as `R` says, and of steps that change nothing. -/
inductive Steps (C : ToolCall → Prop) (R : Store → Store → Prop) :
    ∀ {α : Type}, (Toolchain → BuildAction α) → Prop
  | pure {α : Type} (a : α) : Steps C R fun _ => (Pure.pure a : BuildAction α)
  | throw {α : Type} (e : Error) : Steps C R fun _ => (MonadExcept.throw e : BuildAction α)
  | ask {α : Type} (f : Store → α) : Steps C R fun _ => BuildAction.ask f
  | checkpoint : Steps C R fun _ => BuildAction.checkpoint
  | onFiles {α : Type} {action : FileAction α} (h : ∀ s, EndsIn (R s) action s) :
      Steps C R fun _ => BuildAction.onFiles action
  | call {call : ToolCall} (h : C call) : Steps C R fun tools => BuildAction.call tools call
  | seq {α β : Type} {x : Toolchain → BuildAction α} {f : α → Toolchain → BuildAction β}
      (hx : Steps C R x) (hf : ∀ a tools w t, Gives (x tools) w a t → Steps C R (f a)) :
      Steps C R fun tools => x tools >>= fun a => f a tools

namespace Steps

variable {C D : ToolCall → Prop} {R S : Store → Store → Prop} {α β : Type}

theorem mono {x : Toolchain → BuildAction α} (h : Steps C R x) (hC : ∀ call, C call → D call)
    (hR : ∀ s s', R s s' → S s s') : Steps D S x := by
  induction h with
  | pure a => exact .pure a
  | throw e => exact .throw e
  | ask f => exact .ask f
  | checkpoint => exact .checkpoint
  | onFiles h => exact .onFiles fun s => (h s).mono fun t => hR s t
  | call h => exact .call (hC _ h)
  | seq _ _ hx hf => exact .seq hx hf

theorem bind {x : Toolchain → BuildAction α} {f : α → Toolchain → BuildAction β}
    (hx : Steps C R x) (hf : ∀ a, Steps C R (f a)) :
    Steps C R fun tools => x tools >>= fun a => f a tools :=
  .seq hx fun a _ _ _ _ => hf a

theorem liftM (r : Except Error α) : Steps C R fun _ => (MonadLiftT.monadLift r : BuildAction α) :=
  match r with
  | .ok a => .pure a
  | .error e => .throw e

theorem ite {c : Prop} [Decidable c] {x y : Toolchain → BuildAction α} (hx : Steps C R x)
    (hy : Steps C R y) : Steps C R fun tools => if c then x tools else y tools := by
  by_cases hc : c
  · simpa only [if_pos hc] using hx
  · simpa only [if_neg hc] using hy

theorem mapM {f : Toolchain → β → BuildAction α} {xs : List β}
    (hf : ∀ x ∈ xs, Steps C R fun tools => f tools x) :
    Steps C R fun tools => xs.mapM (f tools) := by
  induction xs with
  | nil => exact .pure []
  | cons x xs ih =>
    simp only [List.mapM_cons]
    refine .bind (hf x List.mem_cons_self) fun y => ?_
    refine .bind (ih fun x' hx' => hf x' (List.mem_cons_of_mem x hx')) fun ys => ?_
    exact .pure (y :: ys)

theorem filterMapM {f : Toolchain → β → BuildAction (Option α)} {xs : List β}
    (hf : ∀ x ∈ xs, Steps C R fun tools => f tools x) :
    Steps C R fun tools => xs.filterMapM (f tools) := by
  induction xs with
  | nil => exact .pure []
  | cons x xs ih =>
    simp only [List.filterMapM_cons]
    have hrest := ih fun x' hx' => hf x' (List.mem_cons_of_mem x hx')
    refine .bind (hf x List.mem_cons_self) fun y => ?_
    cases y with
    | none => exact hrest
    | some y => exact .bind hrest fun ys => .pure (y :: ys)

/-- What all calls and changes of an action keep, holds where the action ends. -/
theorem endsIn {P : World → Prop} {tools : Toolchain} {x : Toolchain → BuildAction α}
    (h : Steps C R x) (hcall : ∀ w call, C call → P w → P (w.after call (tools w call)))
    (hfiles : ∀ w files, R w.files files → P w → P { w with files }) {w : World} (hw : P w) :
    EndsIn P (x tools) w := by
  induction h generalizing w with
  | pure a => exact .pure hw
  | throw e => exact .throw hw
  | ask f => exact .ask hw
  | checkpoint => exact .checkpoint hw
  | onFiles h => exact .onFiles ((h w.files).mono fun files hR => hfiles w files hR hw)
  | call h => exact .call (hcall w _ h hw)
  | seq _ _ hx hf => exact .bind (hx hw) fun a t hgives ht => hf a tools w t hgives ht

end Steps

/-! ## Names of files -/

/-- The files that are named for the plugin are named for places below a directory. -/
def Preparation.StaysInside (p : Preparation) (runtime : Option String) : Prop :=
  (∀ a, (⟨p.name ++ "." ++ p.analysis.decision.kind.extension a⟩ : Path).StaysBelow) ∧
    (⟨Package.archiveName p.name runtime⟩ : Path).StaysBelow

/-- What is listed of a template, and what is left of the listing, is named for its
architecture. -/
theorem Template.namesFile_stem (t : Template) {extension : String}
    (h : extension ∈ [".il", ".trimmed.il"]) : (⟨t.stem ++ extension⟩ : Path).NamesFile := by
  have hnames : ∀ a : Architecture, ∀ extension ∈ [".il", ".trimmed.il"],
      (⟨"wrapper-" ++ a.name ++ extension⟩ : Path).StaysBelow ∧
        ".il".toList <:+ ("wrapper-" ++ a.name ++ extension).toList := by
    intro a
    cases a <;> decide
  obtain ⟨hbelow, hsuffix⟩ := hnames t.architecture extension h
  exact ⟨hbelow, ".il".toList, hsuffix, by decide, by decide⟩

theorem Preparation.StaysInside.namesFile_archive {p : Preparation} {runtime : Option String}
    (h : p.StaysInside runtime) : (⟨Package.archiveName p.name runtime⟩ : Path).NamesFile :=
  ⟨h.2, _, Package.hasEnding_archiveName p.name runtime⟩

namespace BuildRequest

variable {request : BuildRequest} {settings : Settings} {work : Path}

section Parts

variable {C : ToolCall → Prop} {R : Store → Store → Prop}

theorem steps_readInput (hR : ∀ s, R s s) (path : Path) : Steps C R fun _ => readInput path := by
  unfold readInput
  refine .bind (.ask _) fun found => .ite (.bind (.throw _) fun _ => ?_) ?_
  · exact .onFiles fun s => .query (hR s)
  · exact .onFiles fun s => .query (hR s)

theorem steps_readListing (hR : ∀ s, R s s) (path : Path) :
    Steps C R fun _ => readListing path := by
  unfold readListing
  exact .bind (steps_readInput hR path) fun _ => .liftM _

theorem steps_readAssembly {assembly output : Path} (h : C (.disassemble assembly output)) :
    Steps C R fun tools => readAssembly tools assembly output := by
  unfold readAssembly
  exact .bind (.call h) fun _ => .liftM _

theorem steps_readOutline (listing : List Char) : Steps C R fun _ => readOutline listing := by
  unfold readOutline
  split
  · exact .pure _
  · exact .throw _

end Parts

/-! ## Reading -/

/-- The call writes a listing in the directory `work`. -/
def Lists (work : Path) (call : ToolCall) : Prop :=
  ∃ module name, name.NamesFile ∧ call = .disassemble module (work.join name)

theorem steps_readMetadata (request : BuildRequest) (settings : Settings) (work : Path) :
    Steps (Lists work) (Confined work) fun tools => request.readMetadata settings tools work := by
  unfold readMetadata
  cases request.metadata with
  | dump path => exact .bind (.ask _) fun _ => .liftM _
  | listings module references =>
    refine .bind (steps_readListing (Confined.refl work) module) fun _ => ?_
    exact .bind (.mapM fun path _ => steps_readListing (Confined.refl work) path) fun _ => .pure _
  | assembly =>
    have hmanaged : Lists work (.disassemble request.assembly (work.join ⟨"managed.il"⟩)) :=
      ⟨_, _, ⟨by decide, ".il".toList, by decide, by decide, by decide⟩, rfl⟩
    refine .bind (steps_readAssembly hmanaged) fun _ => .bind (.ask _) fun sdk => ?_
    cases sdk with
    | none => exact .pure _
    | some sdk =>
      have hsdk : Lists work (.disassemble sdk (work.join ⟨"sdk.il"⟩)) :=
        ⟨_, _, ⟨by decide, ".il".toList, by decide, by decide, by decide⟩, rfl⟩
      exact .bind (steps_readAssembly hsdk) fun _ => .pure _

theorem steps_analyse (request : BuildRequest) (settings : Settings) (work : Path) :
    Steps (Lists work) (Confined work) fun tools => request.analyse settings tools work := by
  have hread : Steps (Lists work) (Confined work) fun tools => do
      BuildAction.onFiles (FileAction.makeDirectories work)
      let dump ← request.readMetadata settings tools work
      BuildAction.checkpoint
      let analysis ← (Analysis.ofDump dump : BuildAction Analysis)
      BuildAction.checkpoint
      return (dump.module, analysis) := by
    refine .bind (.onFiles fun s => .makeDirectories (.refl work s) ?_) fun _ => ?_
    · exact Store.agreesOn_makeDirectories _ s work
    refine .bind (steps_readMetadata request settings work) fun _ => .bind .checkpoint fun _ => ?_
    exact .bind (.liftM _) fun _ => .bind .checkpoint fun _ => .pure _
  unfold analyse
  refine .bind (.ask _) fun _ => .ite (.bind (.throw _) fun _ => ?_) ?_
  · exact .ite (.bind (.throw _) fun _ => hread) hread
  · exact .ite (.bind (.throw _) fun _ => hread) hread

theorem steps_readTemplate (work : Path) (entry : Template × Nat) :
    Steps (Lists work) (Confined work) fun tools => readTemplate tools work entry := by
  obtain ⟨t, index⟩ := entry
  have hcall : Lists work (t.disassembleCall work) :=
    ⟨_, _, t.namesFile_stem (by simp), rfl⟩
  unfold readTemplate
  refine .ite ?_ (.bind (.ask _) fun _ => .ite (.pure none) ?_)
  · refine .bind (steps_readInput (Confined.refl work) t.path) fun listing => ?_
    exact .bind (steps_readOutline listing) fun _ => .pure _
  · exact .bind (.call hcall) fun listing => .bind (steps_readOutline listing) fun _ => .pure _

theorem steps_prepare (request : BuildRequest) (settings : Settings) (work : Path) :
    Steps (Lists work) (Confined work) fun tools => request.prepare settings tools work := by
  unfold prepare
  refine .bind (steps_analyse request settings work) fun _ => ?_
  refine .bind (.filterMapM fun entry _ => steps_readTemplate work entry) fun _ => ?_
  exact .bind .checkpoint fun _ => .pure _

/-! ## Making -/

/-- The call makes a native module in the directory `work`. -/
def Makes (work : Path) (p : Preparation) (call : ToolCall) : Prop :=
  ∃ source resource a, call = .reassemble source (p.outputPath work a) resource a

theorem confined_write {name : Path} (hname : name.NamesFile) (content : Files.Content)
    (s : Store) :
    EndsIn (Confined work s) (FileAction.change (·.write (work.join name) content)) s := by
  refine .change (.refl work s) fun s' hwrite => ?_
  obtain ⟨location, executable, hl, hn, rfl⟩ := Store.exists_of_write_eq_ok hwrite
  refine Store.agreesOn_put hl hn fun other hother heq => hother ?_
  obtain ⟨below, last, htarget⟩ := s.exists_target_join work hname
  rw [heq, htarget, List.append_assoc]
  exact List.prefix_append _ _

theorem steps_writeKept (work : Path) (p : Preparation) :
    Steps (fun _ => False) (Confined work) fun _ => writeKept work p := by
  unfold writeKept
  refine .bind (.mapM fun m _ => ?_) fun _ => .bind .checkpoint fun _ => .pure _
  exact .bind (.onFiles (confined_write (m.template.namesFile_stem (by simp)) _)) fun _ => .pure _

theorem steps_reassemble {R : Store → Store → Prop} (work : Path) (p : Preparation)
    (m : WrittenModule) : Steps (Makes work p) R fun tools => reassemble tools work p m := by
  unfold reassemble
  refine .seq (.ask _) fun call _ w _ hcall => ?_
  have hmakes : Makes work p call := by
    rw [(Gives.ask_iff.1 hcall).1]
    exact ⟨_, _, _, rfl⟩
  exact .bind (.call hmakes) fun _ => .pure _

/-- A package that is built in the directory `work` is all that changes. -/
theorem confined_build {name : Path} (hname : name.NamesFile) (sdk : String)
    (inputs : Package.Inputs) (s : Store) :
    EndsIn (Confined work s) (Package.build sdk inputs (work.join name)) s := by
  have hparent : ∀ t, EndsIn (Confined work t) (Package.makeParent (work.join name)) t :=
    fun t => Package.endsIn_makeParent (.refl work t) (Store.agreesOn_makeDirectories _ t)
  unfold Package.build
  refine .bind (.get (.refl work s)) fun _ _ _ h => .bind (.liftM h) fun _ _ _ h => ?_
  refine .bind ((hparent _).mono fun _ => h.trans) fun _ _ _ h => ?_
  refine .bind ((confined_write hname _ _).mono fun _ => h.trans) fun _ _ _ h => ?_
  refine .bind (.get h) fun _ _ _ h => .bind (.liftM h) fun _ _ _ h => ?_
  exact .bind ((confined_write hname _ _).mono fun _ => h.trans) fun _ _ _ h => .pure h

theorem steps_assemble (request : BuildRequest) (settings : Settings) (work : Path)
    (p : Preparation) :
    Steps (Makes work p) (fun s s' => p.StaysInside request.runtime → Confined work s s')
      fun tools => request.assemble settings tools work p := by
  unfold assemble
  refine .bind ((steps_writeKept work p).mono nofun fun s s' h _ => h) fun written => ?_
  refine .bind (.mapM fun m _ => steps_reassemble work p m) fun modules => ?_
  refine .bind .checkpoint fun _ => ?_
  refine .bind (.onFiles fun s => ?_) fun _ => .bind .checkpoint fun _ => .pure _
  intro hinside
  exact confined_build hinside.namesFile_archive _ _ s

end BuildRequest

end PluginBuild
