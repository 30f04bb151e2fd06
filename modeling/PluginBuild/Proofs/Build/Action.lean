import PluginBuild.Build.World
import PluginBuild.Proofs.Files.Store
/-!
# Actions that succeed

What an action gives and where it leads, taken apart along its steps. There is one rule for each way
to put actions together and one for each step of a build; `simp` opens actions by them.
-/

namespace PluginBuild

open Files (Path Store)

/-- The action gives `a` and leads from the state `s` to the state `s'`. -/
def Gives {σ α : Type} (action : ExceptT Error (StateM σ) α) (s : σ) (a : α) (s' : σ) : Prop :=
  action.run s = (.ok a, s')

namespace Gives

theorem unique {σ α : Type} {x : ExceptT Error (StateM σ) α} {s t t' : σ} {a b : α}
    (h : Gives x s a t) (h' : Gives x s b t') : a = b ∧ t = t' := by
  rw [Gives, h] at h'
  cases h'
  exact ⟨rfl, rfl⟩

/-- Whether an action succeeds with what a check accepts. -/
def succeeds {σ α : Type} (x : ExceptT Error (StateM σ) α) (s : σ) (check : α → σ → Bool) : Bool :=
  match x.run s with
  | (.ok a, t) => check a t
  | (.error _, _) => false

theorem exists_of_succeeds {σ α : Type} {x : ExceptT Error (StateM σ) α} {s : σ}
    (check : α → σ → Bool) (h : succeeds x s check = true) :
    ∃ a t, Gives x s a t ∧ check a t = true := by
  unfold succeeds at h
  rcases hx : x.run s with ⟨_ | a, t⟩
  · rw [hx] at h
    cases h
  · rw [hx] at h
    exact ⟨a, t, hx, h⟩

section Rules

variable {σ α β : Type} {s s' : σ} {a b : α}

@[simp]
theorem pure_iff : Gives (pure a) s b s' ↔ b = a ∧ s' = s := by
  rw [Gives, ExceptT.run_pure]
  constructor
  · intro h
    cases h
    exact ⟨rfl, rfl⟩
  · rintro ⟨rfl, rfl⟩
    rfl

/-- An action that fails fails also where another one was to follow. -/
theorem run_bind (x : ExceptT Error (StateM σ) β) (f : β → ExceptT Error (StateM σ) α) (s : σ) :
    (x >>= f).run s = match x.run s with
      | (.ok b, t) => (f b).run t
      | (.error e, t) => (.error e, t) := by
  rw [ExceptT.run_bind]
  simp only [bind, StateT.bind]
  rcases x.run s with ⟨_ | b, t⟩ <;> rfl

theorem run_bind_of_error {x : ExceptT Error (StateM σ) β} {e : Error}
    (h : x.run s = (.error e, s')) (f : β → ExceptT Error (StateM σ) α) :
    (x >>= f).run s = (.error e, s') := by
  rw [run_bind, h]

theorem run_bind_of_gives {x : ExceptT Error (StateM σ) β} {b : β} (h : Gives x s b s')
    (f : β → ExceptT Error (StateM σ) α) : (x >>= f).run s = (f b).run s' := by
  rw [Gives] at h
  rw [run_bind, h]

@[simp]
theorem bind_iff {x : ExceptT Error (StateM σ) β} {f : β → ExceptT Error (StateM σ) α} :
    Gives (x >>= f) s a s' ↔ ∃ b t, Gives x s b t ∧ Gives (f b) t a s' := by
  rw [Gives, run_bind]
  constructor
  · intro h
    rcases hx : x.run s with ⟨_ | b, t⟩
    · rw [hx] at h
      cases h
    · rw [hx] at h
      exact ⟨b, t, hx, h⟩
  · rintro ⟨b, t, hx, hf⟩
    rw [Gives] at hx hf
    rw [hx]
    exact hf

@[simp]
theorem map_iff {f : β → α} {x : ExceptT Error (StateM σ) β} :
    Gives (f <$> x) s a s' ↔ ∃ b, Gives x s b s' ∧ a = f b := by
  rw [map_eq_pure_bind, bind_iff]
  simp only [pure_iff]
  constructor
  · rintro ⟨b, _, hx, rfl, rfl⟩
    exact ⟨b, hx, rfl⟩
  · rintro ⟨b, hx, rfl⟩
    exact ⟨b, s', hx, rfl, rfl⟩

@[simp]
theorem throw_iff {e : Error} :
    Gives (throw e : ExceptT Error (StateM σ) α) s a s' ↔ False := by
  rw [Gives, ExceptT.run_throw]
  exact iff_false_intro nofun

@[simp]
theorem ite_iff {c : Prop} [Decidable c] {x y : ExceptT Error (StateM σ) α} :
    Gives (if c then x else y) s a s' ↔ c ∧ Gives x s a s' ∨ ¬c ∧ Gives y s a s' := by
  by_cases hc : c <;> simp [hc]

@[simp]
theorem get_iff {t : σ} : Gives get s t s' ↔ t = s ∧ s' = s := by
  constructor
  · intro h
    cases h
    exact ⟨rfl, rfl⟩
  · rintro ⟨rfl, rfl⟩
    rfl

@[simp]
theorem set_iff {t : σ} {u : PUnit} :
    Gives (set t : ExceptT Error (StateM σ) PUnit) s u s' ↔ s' = t := by
  constructor
  · intro h
    cases h
    rfl
  · rintro rfl
    rfl

@[simp]
theorem liftM_iff {r : Except Error α} :
    Gives (liftM r : ExceptT Error (StateM σ) α) s a s' ↔ r = .ok a ∧ s' = s := by
  constructor
  · intro h
    cases h
    exact ⟨rfl, rfl⟩
  · rintro ⟨rfl, rfl⟩
    rfl

end Rules

/-! ## Lists of actions -/

section Lists

variable {σ α β : Type} {s s' : σ} {f : α → ExceptT Error (StateM σ) β}

theorem mapM_nil_iff {ys : List β} : Gives ([].mapM f) s ys s' ↔ ys = [] ∧ s' = s := by
  rw [List.mapM_nil, pure_iff]

theorem mapM_cons_iff {x : α} {xs : List α} {ys : List β} :
    Gives ((x :: xs).mapM f) s ys s' ↔
      ∃ y rest t, Gives (f x) s y t ∧ Gives (xs.mapM f) t rest s' ∧ ys = y :: rest := by
  simp only [List.mapM_cons, bind_iff, pure_iff]
  constructor
  · rintro ⟨y, t, hy, rest, _, hrest, rfl, rfl⟩
    exact ⟨y, rest, t, hy, hrest, rfl⟩
  · rintro ⟨y, rest, t, hy, hrest, rfl⟩
    exact ⟨y, t, hy, rest, s', hrest, rfl, rfl⟩

theorem mapM_append_iff {xs xs' : List α} {ys : List β} :
    Gives ((xs ++ xs').mapM f) s ys s' ↔
      ∃ front back t, Gives (xs.mapM f) s front t ∧ Gives (xs'.mapM f) t back s' ∧
        ys = front ++ back := by
  simp only [List.mapM_append, bind_iff, pure_iff]
  constructor
  · rintro ⟨front, t, hfront, back, _, hback, rfl, rfl⟩
    exact ⟨front, back, t, hfront, hback, rfl⟩
  · rintro ⟨front, back, t, hfront, hback, rfl⟩
    exact ⟨front, t, hfront, back, s', hback, rfl, rfl⟩

/-- What every action of a list keeps, the list of them keeps. -/
theorem mapM_induct {P : σ → Prop} {xs : List α} {ys : List β} (h : Gives (xs.mapM f) s ys s')
    (hstep : ∀ x ∈ xs, ∀ t y t', Gives (f x) t y t' → P t → P t') (hs : P s) : P s' := by
  induction xs generalizing s ys with
  | nil =>
    obtain ⟨-, rfl⟩ := mapM_nil_iff.1 h
    exact hs
  | cons x xs ih =>
    obtain ⟨y, rest, t, hx, hrest, -⟩ := mapM_cons_iff.1 h
    exact ih hrest (fun x' hx' => hstep x' (List.mem_cons_of_mem x hx'))
      (hstep x List.mem_cons_self s y t hx hs)

/-- Actions that give what a function says give what it says of the whole list. -/
theorem mapM_eq_map {g : α → β} {xs : List α} {ys : List β}
    (hg : ∀ x t y t', Gives (f x) t y t' → y = g x) (h : Gives (xs.mapM f) s ys s') :
    ys = xs.map g := by
  induction xs generalizing s ys with
  | nil => exact (mapM_nil_iff.1 h).1
  | cons x xs ih =>
    obtain ⟨y, rest, t, hx, hrest, rfl⟩ := mapM_cons_iff.1 h
    rw [List.map_cons, hg x s y t hx, ih hrest]

/-- Where a value comes from that is kept of a list of actions. -/
theorem exists_of_filterMapM {f : α → ExceptT Error (StateM σ) (Option β)} {xs : List α}
    {before after : List β} {y : β} (h : Gives (xs.filterMapM f) s (before ++ y :: after) s') :
    ∃ front x back t t', xs = front ++ x :: back ∧ Gives (front.filterMapM f) s before t ∧
      Gives (f x) t (some y) t' := by
  -- The first action either keeps nothing, or keeps `y` itself, or the first value of `before`.
  induction xs generalizing s before with
  | nil => simp at h
  | cons x xs ih =>
    rw [List.filterMapM_cons, bind_iff] at h
    obtain ⟨kept, t, hx, hrest⟩ := h
    rcases kept with _ | z
    · obtain ⟨front, x', back, u, u', rfl, hfront, hx'⟩ := ih hrest
      refine ⟨x :: front, x', back, u, u', rfl, ?_, hx'⟩
      rw [List.filterMapM_cons, bind_iff]
      exact ⟨none, t, hx, hfront⟩
    · simp only [bind_iff, pure_iff] at hrest
      obtain ⟨rest, _, hrest, heq, rfl⟩ := hrest
      cases before with
      | nil =>
        obtain ⟨rfl, -⟩ := List.cons.inj heq
        exact ⟨[], x, xs, s, t, rfl, by simp, hx⟩
      | cons first before =>
        obtain ⟨rfl, rfl⟩ := List.cons.inj heq
        obtain ⟨front, x', back, u, u', rfl, hfront, hx'⟩ := ih hrest
        refine ⟨x :: front, x', back, u, u', rfl, ?_, hx'⟩
        rw [List.filterMapM_cons, bind_iff]
        refine ⟨some first, t, hx, ?_⟩
        simp only [bind_iff, pure_iff]
        exact ⟨before, u, hfront, rfl, rfl⟩

end Lists

/-! ## Steps on files -/

section Files

variable {α : Type} {a : α} {s s' : Store}

@[simp]
theorem query_iff {f : Store → Except Files.Failure α} :
    Gives (FileAction.query f) s a s' ↔ f s = .ok a ∧ s' = s := by
  unfold FileAction.query
  rw [bind_iff]
  simp only [get_iff]
  constructor
  · rintro ⟨_, t, ⟨rfl, rfl⟩, h⟩
    rcases hf : f t with _ | value
    · simp [hf] at h
    · simp only [hf, pure_iff] at h
      exact ⟨by rw [h.1], h.2⟩
  · rintro ⟨hf, rfl⟩
    exact ⟨s', s', ⟨rfl, rfl⟩, by simp [hf]⟩

@[simp]
theorem change_iff {f : Store → Except Files.Failure Store} {u : Unit} :
    Gives (FileAction.change f) s u s' ↔ f s = .ok s' := by
  unfold FileAction.change
  simp only [bind_iff, query_iff, set_iff]
  constructor
  · rintro ⟨_, _, ⟨h, rfl⟩, rfl⟩
    exact h
  · intro h
    exact ⟨s', s, ⟨h, rfl⟩, rfl⟩

/-- Directories that are made change no file. -/
theorem read_makeDirectories {p q : Path} {u : Unit} {content : Files.Content}
    (h : Gives (FileAction.makeDirectories q) s u s') (hr : s.read p = .ok content) :
    s'.read p = .ok content := by
  unfold FileAction.makeDirectories at h
  simp only [ne_eq, ite_iff, bind_iff, get_iff, pure_iff] at h
  rcases h with ⟨-, _, t, ⟨rfl, rfl⟩, h⟩ | ⟨-, -, rfl⟩
  · have hmade := Store.read_makeDirectories q hr
    rcases hm : t.makeDirectories q with ⟨_ | failure, made⟩
    · simp only [hm, set_iff, pure_iff] at h
      obtain ⟨_, _, rfl, -, rfl⟩ := h
      rwa [hm] at hmade
    · simp only [hm, throw_iff] at h
      simp at h
  · exact hr

end Files

/-! ## Steps of a build -/

section Build

variable {α : Type} {a : α} {w w' : World}

@[simp]
theorem onFiles_iff {action : FileAction α} :
    Gives (BuildAction.onFiles action) w a w' ↔
      ∃ files, Gives action w.files a files ∧ w' = { w with files } := by
  have hget : Gives (BuildAction.onFiles action) w a w' ↔
      Gives (do set { w with files := (action.run w.files).2 }; (action.run w.files).1) w a w' := by
    unfold BuildAction.onFiles
    simp only [bind_iff, get_iff]
    constructor
    · rintro ⟨_, _, ⟨rfl, rfl⟩, h⟩
      exact bind_iff.1 h
    · intro h
      exact ⟨w, w, ⟨rfl, rfl⟩, bind_iff.2 h⟩
  simp only [hget, bind_iff, set_iff, liftM_iff]
  constructor
  · rintro ⟨_, _, rfl, h, rfl⟩
    exact ⟨(action.run w.files).2, Prod.ext h rfl, rfl⟩
  · rintro ⟨files, h, rfl⟩
    rw [Gives] at h
    rw [h]
    exact ⟨⟨⟩, _, rfl, rfl, rfl⟩

@[simp]
theorem ask_iff {f : Store → α} : Gives (BuildAction.ask f) w a w' ↔ a = f w.files ∧ w' = w := by
  unfold BuildAction.ask
  simp only [bind_iff, get_iff, pure_iff]
  constructor
  · rintro ⟨_, _, ⟨rfl, rfl⟩, rfl, rfl⟩
    exact ⟨rfl, rfl⟩
  · rintro ⟨rfl, rfl⟩
    exact ⟨_, _, ⟨rfl, rfl⟩, rfl, rfl⟩

@[simp]
theorem call_iff {tools : Toolchain} {call : ToolCall} {text : List Char} :
    Gives (BuildAction.call tools call) w text w' ↔
      (tools w call).result = .ok text ∧ w' = w.after call (tools w call) := by
  unfold BuildAction.call
  simp only [bind_iff, get_iff, set_iff, liftM_iff]
  constructor
  · rintro ⟨_, _, ⟨rfl, rfl⟩, _, _, rfl, h, rfl⟩
    exact ⟨h, rfl⟩
  · rintro ⟨h, rfl⟩
    exact ⟨_, _, ⟨rfl, rfl⟩, ⟨⟩, _, rfl, h, rfl⟩

@[simp]
theorem checkpoint_iff {u : Unit} :
    Gives BuildAction.checkpoint w u w' ↔ w.cancelled = false ∧ w' = w := by
  unfold BuildAction.checkpoint
  simp only [bind_iff, get_iff, ite_iff, throw_iff, pure_iff, and_false, false_or,
    Bool.not_eq_true]
  constructor
  · rintro ⟨_, _, ⟨rfl, rfl⟩, h, -, rfl⟩
    exact ⟨h, rfl⟩
  · rintro ⟨h, rfl⟩
    exact ⟨_, _, ⟨rfl, rfl⟩, h, trivial, rfl⟩

end Build

end Gives

end PluginBuild
