import PluginBuild.Text.Blank
/-!
# Cutting text

Finding a fixed piece in a text and cutting the text there. Each cut loses nothing: the parts and
the piece put together again are the text. What stands in front of the first piece is a text in
which no piece begins (`NoneBegins`).
-/

namespace PluginBuild.Text

/-- What follows `piece` in a text that starts with it. -/
def afterPiece? (piece : List Char) : List Char → Option (List Char)
  | s => if piece.isPrefixOf s then some (s.drop piece.length) else none

/-- What precedes `piece` in a text that ends with it. -/
def beforePiece? (piece s : List Char) : Option (List Char) :=
  if piece.isSuffixOf s then some (s.take (s.length - piece.length)) else none

/-- Whether `piece` occurs in the text. -/
def hasPiece (piece : List Char) : List Char → Bool
  | [] => piece.isEmpty
  | c :: s => piece.isPrefixOf (c :: s) || hasPiece piece s

/-- The text cut around the first occurrence of `piece`. -/
def cutFirst? (piece : List Char) : List Char → Option (List Char × List Char)
  | [] => if piece.isEmpty then some ([], []) else none
  | c :: s =>
    match afterPiece? piece (c :: s) with
    | some rest => some ([], rest)
    | none => (cutFirst? piece s).map fun cut => (c :: cut.1, cut.2)

/-- The text cut around the last occurrence of `piece`. -/
def cutLast? (piece : List Char) : List Char → Option (List Char × List Char)
  | [] => if piece.isEmpty then some ([], []) else none
  | c :: s =>
    match cutLast? piece s with
    | some cut => some (c :: cut.1, cut.2)
    | none => (afterPiece? piece (c :: s)).map fun rest => ([], rest)

/-- The text up to the first occurrence of `piece`, or all of it. -/
def beforeFirst (piece s : List Char) : List Char :=
  match cutFirst? piece s with
  | some cut => cut.1
  | none => s

/-- Every non-overlapping `piece` taken away from the end of the text. -/
def dropEndPieces (piece s : List Char) : List Char :=
  match beforePiece? piece s with
  | some rest => if rest.length < s.length then dropEndPieces piece rest else s
  | none => s
termination_by s.length

/-- The text with every `a` replaced by `b`. -/
def replaceChar (a b : Char) (s : List Char) : List Char := s.map fun c => if c = a then b else c

/-- Upper-case ASCII letters made lower case; all else stays. -/
def asciiLower (s : List Char) : List Char := s.map Char.toLower

/-! ### The first piece -/

variable {piece s t : List Char}

theorem afterPiece?_append (piece s : List Char) : afterPiece? piece (piece ++ s) = some s := by
  simp [afterPiece?]

theorem afterPiece?_eq_none (h : ¬piece <+: s) : afterPiece? piece s = none := by
  rw [afterPiece?, if_neg]
  simpa using h

/-- No `piece` begins in `s` where `t` follows. -/
def NoneBegins (piece s t : List Char) : Prop := ∀ u, u <:+ s → u ≠ [] → ¬piece <+: u ++ t

namespace NoneBegins

/-- A piece begins where its first character is. -/
theorem of_notMem {c : Char} (hc : piece.head? = some c) (h : c ∉ s) : NoneBegins piece s t := by
  obtain ⟨piece, rfl⟩ := List.head?_eq_some_iff.1 hc
  intro u hu hne hpiece
  cases u with
  | nil => exact hne rfl
  | cons d u =>
    obtain ⟨rfl, -⟩ := List.cons_prefix_cons.1 hpiece
    exact h (hu.subset List.mem_cons_self)

/-- A piece that is not in `s` does not begin there either, if it cannot go on behind `s`. -/
theorem of_absent (hs : ¬piece <:+: s) (ht : ∀ c ∈ t.head?, c ∉ piece) :
    NoneBegins piece s t := by
  intro u hu hne hpiece
  rcases List.prefix_or_prefix_of_prefix hpiece (List.prefix_append u t) with hwithin | ⟨rest, rfl⟩
  · exact hs (hwithin.isInfix.trans hu.isInfix)
  · have hrest : rest <+: t := (List.prefix_append_right_inj u).1 hpiece
    cases rest with
    | nil => exact hs (by simpa using hu.isInfix)
    | cons c rest =>
      obtain ⟨more, rfl⟩ := hrest
      exact ht c rfl (by simp)

theorem tail {c : Char} (h : NoneBegins piece (c :: s) t) : NoneBegins piece s t :=
  fun u hu => h u (hu.trans (List.suffix_cons c s))

theorem afterPiece?_eq {c : Char} (h : NoneBegins piece (c :: s) t) :
    afterPiece? piece (c :: (s ++ t)) = none :=
  afterPiece?_eq_none (h (c :: s) List.suffix_rfl (by simp))

end NoneBegins

theorem cutFirst?_piece (piece s : List Char) : cutFirst? piece (piece ++ s) = some ([], s) := by
  cases hall : piece ++ s with
  | nil =>
    obtain ⟨rfl, rfl⟩ := List.append_eq_nil_iff.1 hall
    rfl
  | cons c rest => rw [cutFirst?, ← hall, afterPiece?_append]

theorem cutFirst?_append (h : NoneBegins piece s t) :
    cutFirst? piece (s ++ t) = (cutFirst? piece t).map fun cut => (s ++ cut.1, cut.2) := by
  induction s with
  | nil => simp
  | cons c s ih =>
    rw [List.cons_append, cutFirst?, h.afterPiece?_eq, ih h.tail]
    cases cutFirst? piece t <;> rfl

/-- A text is cut around the first of a character. -/
theorem cutFirst?_singleton {c : Char} (h : c ∉ s) (t : List Char) :
    cutFirst? [c] (s ++ c :: t) = some (s, t) := by
  have hpiece : cutFirst? [c] (c :: t) = some ([], t) := cutFirst?_piece [c] t
  rw [cutFirst?_append (.of_notMem rfl h), hpiece, Option.map_some, List.append_nil]

theorem beforeFirst_append (h : NoneBegins piece s t) :
    beforeFirst piece (s ++ t) = s ++ beforeFirst piece t := by
  rw [beforeFirst, beforeFirst, cutFirst?_append h]
  cases cutFirst? piece t <;> rfl

/-- A line comment does not begin without a slash. -/
theorem beforeFirst_slashless (h : '/' ∉ s) (t : List Char) :
    beforeFirst "//".toList (s ++ t) = s ++ beforeFirst "//".toList t :=
  beforeFirst_append (.of_notMem (by decide) h)

theorem beforeFirst_comment (s : List Char) : beforeFirst "//".toList ('/' :: '/' :: s) = [] := by
  have hpiece : cutFirst? "//".toList ('/' :: '/' :: s) = some ([], s) := cutFirst?_piece _ s
  rw [beforeFirst, hpiece]

end PluginBuild.Text
