import PluginBuild.Proofs.Build.Steps
/-!
# Calls of tools

In which world an action makes a call shows where the action would end if the tools refused that
call (`Asks`). What has been called stays called and a cancellation stays (`World.Precedes`), and a
call that fails is the last one (`Steps.facts_of_asks`). Every call that has been recorded has been
made in some world (`Steps.exists_asks`), one after the other.
-/

namespace PluginBuild

namespace World

variable {w w' w'' : World}

/-- The calls so far are among those later on, and a cancellation stays. -/
structure Precedes (w w' : World) : Prop where
  calls : w.calls <+: w'.calls
  cancelled : w.cancelled = true → w'.cancelled = true

theorem Precedes.refl (w : World) : w.Precedes w := ⟨List.prefix_refl _, id⟩

theorem Precedes.trans (h : w.Precedes w') (h' : w'.Precedes w'') : w.Precedes w'' :=
  ⟨h.calls.trans h'.calls, h'.cancelled ∘ h.cancelled⟩

theorem Precedes.after (w : World) (call : ToolCall) (outcome : ToolOutcome) :
    w.Precedes (w.after call outcome) :=
  ⟨List.prefix_append _ _, fun h => by simp [World.after, h]⟩

/-- The world in which a call has been recorded that did nothing. -/
def asked (w : World) (call : ToolCall) : World := { w with calls := w.calls ++ [call] }

theorem asked_injective {call call' : ToolCall} (h : w.asked call = w'.asked call') :
    w = w' ∧ call = call' := by
  obtain ⟨files, cancelled, calls⟩ := w
  obtain ⟨files', cancelled', calls'⟩ := w'
  simp only [asked, mk.injEq] at h
  obtain ⟨rfl, rfl, hcalls⟩ := h
  obtain ⟨rfl, heq⟩ := List.append_inj' hcalls rfl
  exact ⟨rfl, (List.cons.inj heq).1⟩

end World

/-- The tools, but that they refuse the call with a number. -/
def Toolchain.refusing (tools : Toolchain) (number : Nat) : Toolchain := fun w call =>
  if w.calls.length = number then ⟨.error .cancelled, w.files, false⟩ else tools w call

/-- The action makes the call in the world `v`, where it would end if the call were refused. -/
def Asks {α : Type} (x : Toolchain → BuildAction α) (tools : Toolchain) (w v : World)
    (call : ToolCall) : Prop :=
  w.calls.length ≤ v.calls.length ∧
    ((x (tools.refusing v.calls.length)).run w).2 = v.asked call

section Steps

variable {C : ToolCall → Prop} {R : Files.Store → Files.Store → Prop} {α β : Type}
  {x : Toolchain → BuildAction α} {tools : Toolchain} {w v : World} {call : ToolCall}

theorem Steps.precedes (h : Steps C R x) (tools : Toolchain) (w : World) :
    w.Precedes ((x tools).run w).2 :=
  h.endsIn (P := w.Precedes) (fun _ call _ ht => ht.trans (.after _ call _))
    (fun _ _ _ ht => ⟨ht.calls, ht.cancelled⟩) (.refl w)

theorem BuildAction.run_call (tools : Toolchain) (call : ToolCall) (w : World) :
    (BuildAction.call tools call).run w = ((tools w call).result, w.after call (tools w call)) :=
  rfl

/-- What becomes of an action when a call of a number is refused. -/
inductive Refused (C : ToolCall → Prop) (x : Toolchain → BuildAction α) (tools : Toolchain)
    (number : Nat) (w : World) : Prop
  /-- The action does not come to the call. -/
  | unasked (hsame : (x (tools.refusing number)).run w = (x tools).run w)
      (hlength : ((x tools).run w).2.calls.length ≤ number)
  /-- The action ends there. What it does without the refusal it does after the call, unless the
  call fails. -/
  | asked (v : World) (call : ToolCall) (hcall : C call) (hlength : v.calls.length = number)
      (hbefore : w.Precedes v)
      (hrefused : (x (tools.refusing number)).run w = (.error .cancelled, v.asked call))
      (hafter : (v.after call (tools v call)).Precedes ((x tools).run w).2)
      (hfails : ∀ e, (tools v call).result = .error e →
        (x tools).run w = (.error e, v.after call (tools v call)))

/-- The call is one of the first action, or one of the second where the first one leads. -/
theorem Refused.bind {f : α → Toolchain → BuildAction β} {number : Nat}
    (hx : Refused C x tools number w) (hw : ∀ a t, Gives (x tools) w a t → w.Precedes t)
    (hf : ∀ a t, Gives (x tools) w a t → t.calls.length ≤ number → Refused C (f a) tools number t)
    (ht : ∀ a t, Gives (x tools) w a t → t.Precedes ((f a tools).run t).2) :
    Refused C (fun tools => x tools >>= fun a => f a tools) tools number w := by
  rcases hx with ⟨hsame, hlength⟩ | ⟨v, call, hcall, hlength, hbefore, hrefused, hafter, hfails⟩
  · -- The first action does not come to the call, so it leads to the same with the refusal.
    rcases hrun : (x tools).run w with ⟨e | a, t⟩
    · have hends := Gives.run_bind_of_error hrun fun a => f a tools
      refine .unasked ?_ ?_
      · rw [hends, Gives.run_bind_of_error (hsame.trans hrun)]
      · rw [hends]
        rwa [hrun] at hlength
    · have hgives : Gives (x tools) w a t := hrun
      have hends := Gives.run_bind_of_gives hgives fun a => f a tools
      have hends' := Gives.run_bind_of_gives (hsame.trans hrun) fun a => f a (tools.refusing number)
      rw [hrun] at hlength
      rcases hf a t hgives hlength with
        ⟨hsame', hlength'⟩ | ⟨v, call, hcall, hlength', hbefore, hrefused, hafter, hfails⟩
      · exact .unasked (by rw [hends, hends', hsame']) (by rwa [hends])
      · exact .asked v call hcall hlength' ((hw a t hgives).trans hbefore) (hends'.trans hrefused)
          (by rwa [hends]) fun e he => hends.trans (hfails e he)
  · -- The refusal ends both actions. Without it the second one may go on after the first.
    refine .asked v call hcall hlength hbefore (Gives.run_bind_of_error hrefused _) ?_ fun e he =>
      Gives.run_bind_of_error (hfails e he) _
    rcases hrun : (x tools).run w with ⟨e | a, t⟩
    · rw [Gives.run_bind_of_error hrun]
      rwa [hrun] at hafter
    · rw [Gives.run_bind_of_gives hrun]
      rw [hrun] at hafter
      exact hafter.trans (ht a t hrun)

theorem Steps.refused (h : Steps C R x) (tools : Toolchain) {number : Nat}
    (hnumber : w.calls.length ≤ number) : Refused C x tools number w := by
  -- Only a call can be the one of the number, and it is if that many calls come before it.
  induction h generalizing w with
  | pure a => exact .unasked rfl hnumber
  | throw e => exact .unasked rfl hnumber
  | ask f => exact .unasked rfl hnumber
  | checkpoint =>
    have hcalls : EndsIn (fun t => t.calls = w.calls) BuildAction.checkpoint w := .checkpoint rfl
    exact .unasked rfl (hcalls ▸ hnumber)
  | onFiles h => exact .unasked rfl hnumber
  | @call c h =>
    by_cases heq : w.calls.length = number
    · have hrefuse : tools.refusing number w c = ⟨.error .cancelled, w.files, false⟩ := if_pos heq
      refine .asked w c h heq (.refl w) ?_ (.refl _) fun e he => ?_
      · rw [BuildAction.run_call, hrefuse]
        simp only [World.after, World.asked, Bool.or_false]
      · rw [BuildAction.run_call, he]
    · have hsame : tools.refusing number w c = tools w c := if_neg heq
      refine .unasked ?_ ?_
      · rw [BuildAction.run_call, BuildAction.run_call, hsame]
      · rw [BuildAction.run_call]
        simp only [World.after, List.length_append, List.length_singleton]
        omega
  | seq hy hf ihy ihf =>
    refine (ihy hnumber).bind (fun a t ha => ?_)
      (fun a t ha hlength => ihf a tools _ t ha hlength)
      fun a t ha => (hf a tools _ t ha).precedes tools t
    have hprecedes := hy.precedes tools w
    rwa [ha] at hprecedes

/-- What an action does after it has made a call: a call that fails ends it. -/
theorem Steps.facts_of_asks (h : Steps C R x) (ha : Asks x tools w v call) :
    C call ∧ w.Precedes v ∧ (v.after call (tools v call)).Precedes ((x tools).run w).2 ∧
      ∀ e, (tools v call).result = .error e →
        (x tools).run w = (.error e, v.after call (tools v call)) := by
  obtain ⟨hlength, hends⟩ := ha
  rcases h.refused tools hlength with
    ⟨hsame, hshort⟩ | ⟨v', call', hcall, -, hbefore, hrefused, hafter, hfails⟩
  · rw [← hsame, hends, World.asked, List.length_append, List.length_singleton] at hshort
    omega
  · rw [hrefused] at hends
    obtain ⟨rfl, rfl⟩ := World.asked_injective hends
    exact ⟨hcall, hbefore, hafter, hfails⟩

/-- An action adds to the calls those that it is put together of. -/
theorem Steps.exists_calls_eq (h : Steps C R x) (tools : Toolchain) (w : World) :
    ∃ made, ((x tools).run w).2.calls = w.calls ++ made ∧ ∀ call ∈ made, C call := by
  refine h.endsIn (P := fun t => ∃ made, t.calls = w.calls ++ made ∧ ∀ call ∈ made, C call) ?_
    (fun _ _ _ ht => ht) ⟨[], (List.append_nil _).symm, nofun⟩
  rintro t call hcall ⟨made, hmade, hall⟩
  refine ⟨made ++ [call], by rw [World.after, hmade, List.append_assoc], fun c hc => ?_⟩
  rcases List.mem_append.1 hc with hc | hc
  · exact hall c hc
  · rwa [List.mem_singleton.1 hc]

/-- A call that has been recorded has been made in the world with the calls before it. -/
theorem Steps.exists_asks (h : Steps C R x) {before after : List ToolCall}
    (hcalls : ((x tools).run w).2.calls = w.calls ++ (before ++ call :: after)) :
    ∃ v, Asks x tools w v call ∧ v.calls = w.calls ++ before := by
  have hnumber : w.calls.length ≤ (w.calls ++ before).length := by simp
  rcases h.refused tools hnumber with
    ⟨-, hshort⟩ | ⟨v, call', -, hlength, hbefore, hrefused, hafter, -⟩
  · simp only [hcalls, List.length_append, List.length_cons] at hshort
    omega
  · -- The calls up to this one are as many in both worlds.
    have hsame : v.calls ++ [call'] = w.calls ++ before ++ [call] := by
      have hfirst : v.calls ++ [call'] <+: w.calls ++ before ++ [call] ++ after := by
        have hall : v.calls ++ [call'] <+: ((x tools).run w).2.calls := hafter.calls
        rw [hcalls] at hall
        simpa using hall
      have hlengths : (v.calls ++ [call']).length = (w.calls ++ before ++ [call]).length := by
        simp only [List.length_append, List.length_singleton] at hlength ⊢
        rw [hlength]
      exact (List.prefix_of_prefix_length_le hfirst (List.prefix_append _ _)
        (Nat.le_of_eq hlengths)).eq_of_length hlengths
    obtain ⟨hv, heq⟩ := List.append_inj' hsame rfl
    obtain rfl := (List.cons.inj heq).1
    refine ⟨v, ⟨hbefore.calls.length_le, ?_⟩, hv⟩
    rw [hlength, hrefused]

/-- A call of two actions is one of the first, or of the second where the first one leads. -/
theorem Steps.asks_bind (h : Steps C R x) {f : α → Toolchain → BuildAction β}
    (ha : Asks (fun tools => x tools >>= fun a => f a tools) tools w v call) :
    Asks x tools w v call ∨ ∃ a t, Gives (x tools) w a t ∧ Asks (f a) tools t v call := by
  obtain ⟨hlength, hends⟩ := ha
  rcases h.refused tools hlength with ⟨hsame, hshort⟩ | ⟨v', call', -, -, -, hrefused, -, -⟩
  · rcases hrun : (x tools).run w with ⟨e | a, t⟩
    · rw [Gives.run_bind_of_error (hsame.trans hrun)] at hends
      rw [hrun] at hshort
      obtain rfl : t = v.asked call := hends
      simp only [World.asked, List.length_append, List.length_singleton] at hshort
      omega
    · rw [Gives.run_bind_of_gives (hsame.trans hrun)] at hends
      rw [hrun] at hshort
      exact .inr ⟨a, t, hrun, hshort, hends⟩
  · rw [Gives.run_bind_of_error hrefused] at hends
    refine .inl ⟨hlength, ?_⟩
    rw [hrefused]
    exact hends

end Steps

/-! ## Calls in their order -/

/-- The action makes calls of the list, one after the other, and all of them if it succeeds. -/
def Follows {α : Type} (x : BuildAction α) (w : World) (calls : List ToolCall) : Prop :=
  ∃ made, (x.run w).2.calls = w.calls ++ made ∧ made <+: calls ∧ ∀ a t, Gives x w a t → made = calls

namespace Follows

variable {α β : Type} {x : BuildAction α} {w : World} {calls more : List ToolCall}

theorem of_eq (h : (x.run w).2.calls = w.calls) : Follows x w [] :=
  ⟨[], by rw [h, List.append_nil], List.prefix_refl _, fun _ _ _ => rfl⟩

theorem of_error {e : Error} {t : World} (h : x.run w = (.error e, t)) (ht : t.calls = w.calls) :
    Follows x w calls := by
  refine ⟨[], by rw [h, ht, List.append_nil], List.nil_prefix, fun a u ha => ?_⟩
  rw [Gives, h] at ha
  cases ha

/-- An action that is not put together of calls makes none. -/
theorem of_steps {x : Toolchain → BuildAction α}
    (h : Steps (fun _ => False) (fun _ _ => True) x) (tools : Toolchain) (w : World) :
    Follows (x tools) w [] :=
  of_eq (h.endsIn (P := fun t => t.calls = w.calls) (fun _ _ hfalse _ => hfalse.elim)
    (fun _ _ _ ht => ht) rfl)

theorem call (tools : Toolchain) (call : ToolCall) (w : World) :
    Follows (BuildAction.call tools call) w [call] :=
  ⟨[call], rfl, List.prefix_refl _, fun _ _ _ => rfl⟩

theorem checkpoint (w : World) : Follows BuildAction.checkpoint w [] :=
  of_eq (EndsIn.checkpoint (P := fun t => t.calls = w.calls) rfl)

theorem bind {f : α → BuildAction β} (hx : Follows x w calls)
    (hf : ∀ a t, Gives x w a t → Follows (f a) t more) : Follows (x >>= f) w (calls ++ more) := by
  obtain ⟨made, hmade, hcalls, hall⟩ := hx
  rcases hrun : x.run w with ⟨e | a, t⟩
  · rw [hrun] at hmade
    refine ⟨made, by rw [Gives.run_bind_of_error hrun, hmade],
      hcalls.trans (List.prefix_append _ _), fun b u hb => ?_⟩
    obtain ⟨a, t', ha, -⟩ := Gives.bind_iff.1 hb
    rw [Gives, hrun] at ha
    cases ha
  · obtain ⟨made', hmade', hcalls', hall'⟩ := hf a t hrun
    rw [hrun] at hmade
    rw [hall a t hrun] at hmade
    refine ⟨calls ++ made', ?_, (List.prefix_append_right_inj _).2 hcalls', fun b u hb => ?_⟩
    · rw [Gives.run_bind_of_gives hrun, hmade', hmade, List.append_assoc]
    · rw [Gives, Gives.run_bind_of_gives hrun] at hb
      rw [hall' b u hb]

/-- Actions without calls may stand before others and after them. -/
theorem bind_right {f : α → BuildAction β} (hx : Follows x w [])
    (hf : ∀ a t, Gives x w a t → Follows (f a) t calls) : Follows (x >>= f) w calls :=
  hx.bind hf

theorem bind_left {f : α → BuildAction β} (hx : Follows x w calls)
    (hf : ∀ a t, Gives x w a t → Follows (f a) t []) : Follows (x >>= f) w calls :=
  List.append_nil calls ▸ hx.bind hf

end Follows

end PluginBuild
