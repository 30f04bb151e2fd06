import PluginBuild.Proofs.Build.Action
/-!
# Where actions end

What holds at the end of an action, whether it succeeds or fails (`EndsIn`). An action ends where
its first failing step does, so there is one rule for each way to put actions together and one for
each step of a build, as there is for actions that succeed.
-/

namespace PluginBuild

open Files (Path Store)

/-- `P` holds where the action leads from the state `s`, whether it succeeds or fails. -/
def EndsIn {σ α : Type} (P : σ → Prop) (x : ExceptT Error (StateM σ) α) (s : σ) : Prop :=
  P (x.run s).2

/-- `P` holds where the action leads from the state `s` if it fails. -/
def FailsIn {σ α : Type} (P : σ → Prop) (x : ExceptT Error (StateM σ) α) (s : σ) : Prop :=
  ∀ e t, x.run s = (.error e, t) → P t

namespace EndsIn

section Rules

variable {σ α β : Type} {P Q : σ → Prop} {s t : σ} {x : ExceptT Error (StateM σ) α}

theorem of_gives {a : α} (h : EndsIn P x s) (hx : Gives x s a t) : P t := by
  rw [EndsIn, hx] at h
  exact h

theorem mono (h : EndsIn P x s) (hPQ : ∀ t, P t → Q t) : EndsIn Q x s := hPQ _ h

theorem pure {a : α} (h : P s) : EndsIn P (Pure.pure a) s := h

theorem throw {e : Error} (h : P s) :
    EndsIn P (MonadExcept.throw e : ExceptT Error (StateM σ) α) s := h

theorem liftM {r : Except Error α} (h : P s) :
    EndsIn P (MonadLiftT.monadLift r : ExceptT Error (StateM σ) α) s := h

theorem bind {f : α → ExceptT Error (StateM σ) β} (hx : EndsIn P x s)
    (hf : ∀ a t, Gives x s a t → P t → EndsIn P (f a) t) : EndsIn P (x >>= f) s := by
  rw [EndsIn, Gives.run_bind]
  rcases hrun : x.run s with ⟨_ | a, t⟩
  · rw [EndsIn, hrun] at hx
    exact hx
  · exact hf a t hrun (hx.of_gives hrun)

theorem get (h : P s) : EndsIn P (MonadState.get : ExceptT Error (StateM σ) σ) s := h

end Rules

/-! ## Steps on files -/

section Files

variable {α : Type} {P : Store → Prop} {s : Store}

theorem query {f : Store → Except Files.Failure α} (h : P s) :
    EndsIn P (FileAction.query f) s := by
  unfold FileAction.query
  refine bind (get h) fun t t' _ ht => ?_
  rcases hf : f t with _ | a
  · exact throw ht
  · exact pure ht

theorem change {f : Store → Except Files.Failure Store} (h : P s)
    (hf : ∀ s', f s = .ok s' → P s') : EndsIn P (FileAction.change f) s := by
  unfold FileAction.change
  refine bind (query h) fun s' t hs' _ => ?_
  exact hf s' (Gives.query_iff.1 hs').1

theorem makeDirectories {p : Path} (h : P s) (hp : P (s.makeDirectories p).2) :
    EndsIn P (FileAction.makeDirectories p) s := by
  unfold FileAction.makeDirectories
  split
  · refine bind (get h) fun t t' ht _ => ?_
    obtain ⟨rfl, rfl⟩ := Gives.get_iff.1 ht
    rcases hmade : t'.makeDirectories p with ⟨_ | failure, made⟩ <;> rw [hmade] at hp <;> exact hp
  · exact pure h

end Files

/-! ## Steps of a build -/

section Build

variable {α : Type} {P : World → Prop} {w : World}

theorem onFiles {action : FileAction α}
    (h : EndsIn (fun files => P { w with files }) action w.files) :
    EndsIn P (BuildAction.onFiles action) w := h

theorem ask {f : Store → α} (h : P w) : EndsIn P (BuildAction.ask f) w := h

theorem call {tools : Toolchain} {call : ToolCall} (h : P (w.after call (tools w call))) :
    EndsIn P (BuildAction.call tools call) w := h

theorem checkpoint (h : P w) : EndsIn P BuildAction.checkpoint w := by
  unfold BuildAction.checkpoint
  refine bind (get h) fun t t' _ ht => ?_
  split
  · exact throw ht
  · exact pure ht

end Build

end EndsIn

namespace FailsIn

variable {σ α β : Type} {P : σ → Prop} {s : σ}

theorem bind {x : ExceptT Error (StateM σ) α} {f : α → ExceptT Error (StateM σ) β}
    (hx : EndsIn P x s) (hf : ∀ a t, Gives x s a t → P t → FailsIn P (f a) t) :
    FailsIn P (x >>= f) s := by
  intro e t h
  rw [Gives.run_bind] at h
  rcases hrun : x.run s with ⟨_ | a, u⟩
  · rw [hrun] at h
    cases h
    rw [EndsIn, hrun] at hx
    exact hx
  · rw [hrun] at h
    exact hf a u hrun (hx.of_gives hrun) e t h

/-- A change that fails changes nothing. -/
theorem change {P : Store → Prop} {s : Store} {f : Store → Except Files.Failure Store} (h : P s) :
    FailsIn P (FileAction.change f) s :=
  bind (.query h) fun s' t _ _ e t' hset => by cases hset

theorem onFiles {P : World → Prop} {w : World} {action : FileAction α}
    (h : FailsIn (fun files => P { w with files }) action w.files) :
    FailsIn P (BuildAction.onFiles action) w := by
  intro e t ht
  rcases hrun : action.run w.files with ⟨result, files⟩
  have hresult : (BuildAction.onFiles action).run w = (result, { w with files }) := by
    change ((action.run w.files).1, { w with files := (action.run w.files).2 }) = _
    rw [hrun]
  rw [hresult] at ht
  cases ht
  exact h e files hrun

end FailsIn

end PluginBuild
