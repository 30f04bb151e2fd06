/-!
# Physical lines

A text cut after each line feed. The lines put together again are the text, and only the last one
may lack its line feed.
-/

namespace PluginBuild.Text

/-- The physical lines of a text, each with its line feed. -/
def physicalLines : List Char → List (List Char)
  | [] => []
  | c :: rest =>
    if c = '\n' then [c] :: physicalLines rest
    else match physicalLines rest with
      | [] => [[c]]
      | line :: lines => (c :: line) :: lines

/-- The number of bytes the text takes in UTF-8. -/
def byteLength : List Char → Nat
  | [] => 0
  | c :: rest => c.utf8Size + byteLength rest

/-- A text is the sequence of its physical lines. -/
theorem flatten_physicalLines (s : List Char) : (physicalLines s).flatten = s := by
  induction s with
  | nil => rfl
  | cons c rest ih =>
    rw [physicalLines]
    split
    · simp [ih]
    · split
      · next h => simp [h] at ih; simp [ih]
      · next line lines h => simp [h] at ih; simp [ih]

end PluginBuild.Text
