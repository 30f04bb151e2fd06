import Mathlib.Data.List.Sort
import Mathlib.Data.String.Basic
import PluginBuild.Ordered
import PluginBuild.Text.Names
/-!
# Sets by their elements

A set that is listed in an order is known by its elements (`ofList_eq_ofList`): it does not matter
in which order, or how often, they were put in.
-/

namespace PluginBuild.Ordered

variable {α : Type} [DecidableEq α] {before : α → α → Bool}

/-- Of two elements one comes before the other, and no element before itself. -/
structure IsOrder (before : α → α → Bool) : Prop where
  irrefl : ∀ a, ¬before a a
  trans : ∀ a b c, before a b → before b c → before a c
  total : ∀ a b, before a b ∨ a = b ∨ before b a

theorem pairwise_insert (h : IsOrder before) {a : α} {s : List α}
    (hs : s.Pairwise (before · ·)) : (insert before a s).Pairwise (before · ·) := by
  induction s with
  | nil => exact List.pairwise_singleton _ a
  | cons b rest ih =>
    rw [List.pairwise_cons] at hs
    obtain ⟨hb, hrest⟩ := hs
    rw [insert]
    split_ifs with hab heq
    · refine List.pairwise_cons.2 ⟨fun x hx => ?_, List.pairwise_cons.2 ⟨hb, hrest⟩⟩
      rcases List.mem_cons.1 hx with rfl | hx
      · exact hab
      · exact h.trans a b x hab (hb x hx)
    · exact List.pairwise_cons.2 ⟨hb, hrest⟩
    · refine List.pairwise_cons.2 ⟨fun x hx => ?_, ih hrest⟩
      rcases mem_insert.1 hx with rfl | hx
      · exact ((h.total x b).resolve_left hab).resolve_left heq
      · exact hb x hx

/-- The elements of a set stand in order. -/
theorem pairwise_ofList (h : IsOrder before) (elements : List α) :
    (ofList before elements).Pairwise (before · ·) := by
  induction elements with
  | nil => exact .nil
  | cons a rest ih => exact pairwise_insert h ih

/-- Sets that are made of the same elements are the same. -/
theorem ofList_eq_ofList (h : IsOrder before) {elements others : List α}
    (hsame : ∀ x, x ∈ elements ↔ x ∈ others) :
    ofList before elements = ofList before others := by
  have : Std.Irrefl fun a b => before a b = true := ⟨h.irrefl⟩
  have : Std.Asymm fun a b => before a b = true :=
    ⟨fun a b hab hba => h.irrefl a (h.trans a b a hab hba)⟩
  refine (pairwise_ofList h elements).eq_of_mem_iff (pairwise_ofList h others) fun x => ?_
  rw [mem_ofList, mem_ofList, hsame]

end PluginBuild.Ordered

namespace PluginBuild.Text

theorem isOrder_names : Ordered.IsOrder fun a b : String => a < b where
  irrefl a := by simp
  trans a b c hab hbc := by
    simp only [decide_eq_true_iff] at hab hbc ⊢
    exact lt_trans hab hbc
  total a b := by
    simp only [decide_eq_true_iff]
    exact lt_trichotomy a b

/-- Sets of the same names are the same. -/
theorem nameSet_eq_nameSet {names others : List String} (h : ∀ x, x ∈ names ↔ x ∈ others) :
    nameSet names = nameSet others :=
  Ordered.ofList_eq_ofList isOrder_names h

end PluginBuild.Text
