/-!
# Ordered sets

Sets as lists in the order of a relation, each element once.
-/

namespace PluginBuild.Ordered

variable {α : Type} [DecidableEq α]

/-- The set with an element more, which it may have already. -/
def insert (before : α → α → Bool) (a : α) : List α → List α
  | [] => [a]
  | b :: rest =>
    if before a b then a :: b :: rest
    else if a = b then b :: rest
    else b :: insert before a rest

/-- The elements of a list in order, each once. -/
def ofList (before : α → α → Bool) (elements : List α) : List α :=
  elements.foldr (insert before) []

/-- The elements after an insertion are the new one and the old ones. -/
theorem mem_insert {before : α → α → Bool} {a x : α} {s : List α} :
    x ∈ insert before a s ↔ x = a ∨ x ∈ s := by
  induction s with
  | nil => simp [insert]
  | cons b rest ih =>
    rw [insert]
    split
    · simp
    · split
      · next h => simp [h]
      · simp only [List.mem_cons, ih]
        constructor
        · rintro (h | h | h)
          · exact .inr (.inl h)
          · exact .inl h
          · exact .inr (.inr h)
        · rintro (h | h | h)
          · exact .inr (.inl h)
          · exact .inl h
          · exact .inr (.inr h)

/-- A set has the elements of the list it is made of. -/
theorem mem_ofList {before : α → α → Bool} {x : α} {elements : List α} :
    x ∈ ofList before elements ↔ x ∈ elements := by
  induction elements with
  | nil => simp [ofList]
  | cons a rest ih => rw [ofList, List.foldr_cons, mem_insert, ← ofList, ih, List.mem_cons]

end PluginBuild.Ordered
