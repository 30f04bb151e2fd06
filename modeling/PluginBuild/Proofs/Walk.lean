import Mathlib.Data.List.Chain
import Mathlib.Data.List.Nodup
/-!
# Walks that end where they would come again

A walk goes on from each element to the next one, and ends where there is none or where it would
come to one that it has met. Nothing is lost by that: a walk comes to all that any number of steps
leads to (`Walk.mem_iff`), and a search along it finds what is met first on the way, however far the
steps go (`Walk.findSome?_eq_some_iff`).
-/

namespace PluginBuild

variable {α β : Type} {next : α → Option α}

/-- What a number of steps leads to, where there are so many. -/
def iterate? (next : α → Option α) : Nat → α → Option α
  | 0, a => some a
  | n + 1, a => (next a).bind (iterate? next n)

/-- The elements of a walk from `start`. None of those in `met` is on it, but that it may start
there. -/
inductive Walk (next : α → Option α) : List α → α → List α → Prop
  | last {met : List α} {start : α} (hend : ∀ after ∈ next start, after ∈ met) :
      Walk next met start [start]
  | step {met path : List α} {start after : α} (hnext : next start = some after)
      (hafter : after ∉ met) (hpath : Walk next (after :: met) after path) :
      Walk next met start (start :: path)

/-- Steps do not lead out of what each step stays in. -/
theorem mem_of_iterate? {within : List α} (hclosed : ∀ a ∈ within, ∀ b ∈ next a, b ∈ within)
    {n : Nat} {a b : α} (ha : a ∈ within) (h : iterate? next n a = some b) : b ∈ within := by
  induction n generalizing a with
  | zero =>
    cases h
    exact ha
  | succ n ih =>
    obtain ⟨c, hc, hrest⟩ := Option.bind_eq_some_iff.1 h
    exact ih (hclosed a ha c hc) hrest

namespace Walk

variable {met path : List α} {start : α}

theorem head?_eq (h : Walk next met start path) : path.head? = some start := by
  cases h <;> rfl

theorem start_mem (h : Walk next met start path) : start ∈ path :=
  List.mem_of_head? h.head?_eq

/-- Each element of a walk is the next one of the element before it. -/
theorem isChain (h : Walk next met start path) : path.IsChain fun a b => next a = some b := by
  induction h with
  | last => exact List.isChain_singleton _
  | step hnext _ hpath ih =>
    refine List.isChain_cons.2 ⟨fun b hb => ?_, ih⟩
    rw [hpath.head?_eq] at hb
    cases hb
    exact hnext

/-- What each step keeps holds all along a walk. -/
theorem of_mem {p : α → Prop} (hstep : ∀ a b, p a → next a = some b → p b)
    (h : Walk next met start path) (hstart : p start) {a : α} (ha : a ∈ path) : p a := by
  induction h with
  | last =>
    rw [List.mem_singleton.1 ha]
    exact hstart
  | step hnext _ _ ih =>
    rcases List.mem_cons.1 ha with rfl | ha
    · exact hstart
    · exact ih (hstep _ _ hstart hnext) ha

/-- Behind its start a walk does not come to what has been met before. -/
theorem eq_start_or_notMem (h : Walk next met start path) {a : α} (ha : a ∈ path) :
    a = start ∨ a ∉ met := by
  induction h with
  | last => exact .inl (List.mem_singleton.1 ha)
  | step _ hafter _ ih =>
    rcases List.mem_cons.1 ha with rfl | ha
    · exact .inl rfl
    · rcases ih ha with rfl | hnew
      · exact .inr hafter
      · exact .inr fun hmem => hnew (List.mem_cons_of_mem _ hmem)

/-- A walk that has met its start does not come to an element twice. -/
theorem nodup (h : Walk next met start path) (hstart : start ∈ met) : path.Nodup := by
  induction h with
  | last => exact List.nodup_singleton _
  | step _ hafter hpath ih =>
    refine List.nodup_cons.2 ⟨fun hmem => ?_, ih List.mem_cons_self⟩
    rcases hpath.eq_start_or_notMem hmem with rfl | hnew
    · exact hafter hstart
    · exact hnew (List.mem_cons_of_mem _ hstart)

/-- No step leads out of a walk and what has been met before it. -/
theorem mem_of_next (h : Walk next met start path) {a b : α} (ha : a ∈ path)
    (hb : next a = some b) : b ∈ path ∨ b ∈ met := by
  induction h with
  | last hend =>
    rw [List.mem_singleton.1 ha] at hb
    exact .inr (hend b hb)
  | step hnext _ hpath ih =>
    rcases List.mem_cons.1 ha with rfl | ha
    · cases hnext.symm.trans hb
      exact .inl (List.mem_cons_of_mem _ hpath.start_mem)
    · rcases ih ha with hmem | hmem
      · exact .inl (List.mem_cons_of_mem _ hmem)
      · rcases List.mem_cons.1 hmem with rfl | hmem
        · exact .inl (List.mem_cons_of_mem _ hpath.start_mem)
        · exact .inr hmem

/-- No step leads out of a walk that has met nothing but its start. -/
theorem next_mem (h : Walk next met start path) (hmet : ∀ a ∈ met, a = start) {a b : α}
    (ha : a ∈ path) (hb : next a = some b) : b ∈ path := by
  rcases h.mem_of_next ha hb with hmem | hmem
  · exact hmem
  · rw [hmet b hmem]
    exact h.start_mem

/-- As far as a walk goes, it goes step by step. -/
theorem getElem?_eq_iterate? (h : Walk next met start path) {n : Nat} (hn : n < path.length) :
    path[n]? = iterate? next n start := by
  induction h generalizing n with
  | last =>
    obtain rfl : n = 0 := by simpa using hn
    rfl
  | step hnext _ _ ih =>
    cases n with
    | zero => rfl
    | succ n =>
      rw [List.getElem?_cons_succ, ih (Nat.lt_of_succ_lt_succ hn), iterate?, hnext,
        Option.bind_some]

/-- A walk comes to all that any number of steps leads to. -/
theorem mem_iff (h : Walk next met start path) (hmet : ∀ a ∈ met, a = start) {a : α} :
    a ∈ path ↔ ∃ n, iterate? next n start = some a := by
  constructor
  · intro ha
    obtain ⟨n, hn⟩ := List.mem_iff_getElem?.1 ha
    have hlt : n < path.length := (List.getElem?_eq_some_iff.1 hn).1
    exact ⟨n, (h.getElem?_eq_iterate? hlt).symm.trans hn⟩
  · rintro ⟨n, hn⟩
    exact mem_of_iterate? (fun b hb c hc => h.next_mem hmet hb hc) h.start_mem hn

/-- From the elements of a walk, steps lead to no others. -/
theorem mem_of_mem_of_iterate? (h : Walk next met start path) (hmet : ∀ a ∈ met, a = start)
    {n : Nat} {a b : α} (ha : a ∈ path) (hb : iterate? next n a = some b) : b ∈ path :=
  mem_of_iterate? (fun _ hc _ hd => h.next_mem hmet hc hd) ha hb

variable {f : α → Option β}

/-- A search along a walk finds something if there is something at any number of steps. -/
theorem isSome_findSome?_iff (h : Walk next met start path) (hmet : ∀ a ∈ met, a = start) :
    (path.findSome? f).isSome = true ↔
      ∃ n a, iterate? next n start = some a ∧ (f a).isSome = true := by
  rw [List.isSome_findSome?, List.any_eq_true]
  constructor
  · rintro ⟨a, ha, hsome⟩
    obtain ⟨n, hn⟩ := (h.mem_iff hmet).1 ha
    exact ⟨n, a, hn, hsome⟩
  · rintro ⟨n, a, hn, hsome⟩
    exact ⟨a, (h.mem_iff hmet).2 ⟨n, hn⟩, hsome⟩

/-- A search along a walk that finds something finds what is there at the least number of steps. -/
theorem exists_first_of_findSome? (h : Walk next met start path) {b : β}
    (hfound : path.findSome? f = some b) :
    ∃ n a, iterate? next n start = some a ∧ f a = some b ∧
      ∀ k < n, ∀ c, iterate? next k start = some c → f c = none := by
  obtain ⟨before, a, after, rfl, ha, hnone⟩ := List.findSome?_eq_some_iff.1 hfound
  refine ⟨before.length, a, ?_, ha, fun k hk c hc => hnone c ?_⟩
  · rw [← h.getElem?_eq_iterate? (by simp)]
    simp
  · rw [← h.getElem?_eq_iterate? (by simp; omega), List.getElem?_append_left hk] at hc
    exact List.mem_of_getElem? hc

/-- A search along a walk finds what is there at the least number of steps, although the steps may
go further than the walk. -/
theorem findSome?_eq_some_iff (h : Walk next met start path) (hmet : ∀ a ∈ met, a = start) {b : β} :
    path.findSome? f = some b ↔
      ∃ n a, iterate? next n start = some a ∧ f a = some b ∧
        ∀ k < n, ∀ c, iterate? next k start = some c → f c = none := by
  refine ⟨h.exists_first_of_findSome?, ?_⟩
  rintro ⟨n, a, hn, ha, hfirst⟩
  cases hfound : path.findSome? f with
  | none =>
    have hsome := (h.isSome_findSome?_iff hmet).2 ⟨n, a, hn, Option.isSome_of_mem ha⟩
    rw [hfound] at hsome
    cases hsome
  | some other =>
    -- Of two places at which something is met first, neither is before the other.
    obtain ⟨k, c, hk, hc, hfirst'⟩ := h.exists_first_of_findSome? hfound
    rcases Nat.lt_trichotomy k n with hlt | rfl | hlt
    · rw [hfirst k hlt c hk] at hc
      cases hc
    · cases hk.symm.trans hn
      exact hc.symm.trans ha
    · rw [hfirst' n hlt a hn] at ha
      cases ha

end Walk

end PluginBuild
