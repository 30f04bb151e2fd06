import PluginBuild.Proofs.Listing.Line
/-!
# Listings one behind the other

Where a listing ends with a physical line, outside of parentheses and block comments, nothing that
is read before the place has a say in what is read behind it. So a listing put behind another one
has the logical lines that it has by itself, further down in the text (`logicalLines_append`).
-/

namespace PluginBuild.Listing

open Text (byteLength physicalLines takeBytes ProperLines)

/-- The line where it stands if so many bytes and line feeds come before its listing. -/
def Line.shifted (bytes feeds : Nat) (line : Line) : Line :=
  { line with start := bytes + line.start, number := feeds + line.number }

/-- The fault where it stands if so many line feeds come before its listing. -/
def Malformed.shifted (feeds : Nat) (malformed : Malformed) : Malformed :=
  { malformed with line := feeds + malformed.line }

/-- What is read of a listing that so many bytes and line feeds come before. -/
def shiftedLines (bytes feeds : Nat) :
    Except Malformed (List Line) → Except Malformed (List Line)
  | .ok lines => .ok (lines.map (Line.shifted bytes feeds))
  | .error malformed => .error (malformed.shifted feeds)

/-- Lines are read before others as they are read by themselves. -/
theorem logicalFrom_append {mode : Mode} {number offset : Nat} {physicals : List (List Char)}
    {lines : List Line} (h : logicalFrom mode number offset none physicals = .ok lines)
    (more : List (List Char)) :
    logicalFrom mode number offset none (physicals ++ more) =
      (logicalFrom (mode.afterLines physicals) (number + physicals.length)
        (offset + byteLength physicals.flatten) none more).map (lines ++ ·) := by
  induction lines generalizing mode number offset physicals with
  | nil =>
    rw [eq_nil_of_logicalFrom h]
    change logicalFrom mode number offset none more =
      (logicalFrom mode number offset none more).map ([] ++ ·)
    cases logicalFrom mode number offset none more <;> rfl
  | cons line lines ih =>
    obtain ⟨chunk, rest, -, rfl, rfl, hends, hrest⟩ := exists_endsLine h
    rw [List.append_assoc, hends, ih hrest, Mode.afterLines_append, List.length_append,
      List.flatten_append, Text.byteLength_append, ← Nat.add_assoc, ← Nat.add_assoc]
    cases logicalFrom ((mode.afterLines chunk).afterLines rest)
      (number + chunk.length + rest.length)
      (offset + byteLength chunk.flatten + byteLength rest.flatten) none more <;> rfl

/-- Reading does not depend on where a listing stands, but for the places that it gives. -/
theorem logicalFrom_shifted (mode : Mode) (number offset : Nat) (pending : Option (Line × Int))
    (physicals : List (List Char)) (bytes feeds : Nat) :
    logicalFrom mode (feeds + number) (bytes + offset)
        (pending.map fun opened => (opened.1.shifted bytes feeds, opened.2)) physicals =
      shiftedLines bytes feeds (logicalFrom mode number offset pending physicals) := by
  induction physicals generalizing mode number offset pending with
  | nil => cases pending <;> rfl
  | cons physical rest ih =>
    have hextend (line : Line) (marks : List (Char × Part)) :
        (line.shifted bytes feeds).extend marks = (line.extend marks).shifted bytes feeds := rfl
    -- The line that is gone on with is the same line further down, and so is one that begins here.
    have hopened : (pending.map fun opened => (opened.1.shifted bytes feeds, opened.2)).getD
          (Line.emptyAt (bytes + offset) (feeds + number), 0) =
        ((pending.getD (Line.emptyAt offset number, 0)).1.shifted bytes feeds,
          (pending.getD (Line.emptyAt offset number, 0)).2) := by
      cases pending <;> rfl
    rw [logicalFrom_cons, logicalFrom_cons, hopened]
    dsimp only
    rw [hextend, Nat.add_assoc, Nat.add_assoc]
    split
    · rfl
    · split
      · exact ih _ _ _ (some (_, _))
      · have hrest := ih (mode.afterLines [physical]) (number + 1) (offset + byteLength physical)
          none
        rw [Option.map_none] at hrest
        rw [hrest]
        cases logicalFrom (mode.afterLines [physical]) (number + 1)
          (offset + byteLength physical) none rest <;> rfl

/-- Behind physical lines the mode is one that goes on over a line feed. -/
theorem Mode.afterLines_code (physicals : List (List Char)) :
    Mode.code.afterLines physicals = .code ∨ Mode.code.afterLines physicals = .blockComment := by
  have hnext (mode : Mode) : mode.atNextLine = .code ∨ mode.atNextLine = .blockComment := by
    cases mode <;> simp [Mode.atNextLine]
  rcases List.eq_nil_or_concat physicals with rfl | ⟨front, last, rfl⟩
  · exact .inl rfl
  · rw [List.concat_eq_append, Mode.afterLines_append]
    exact hnext _

/-- A listing that stands behind a whole one is read as it is by itself, further down in the text,
whether it can be read or not. -/
theorem logicalLines_append {a : List Char} {lines : List Line}
    (hend : a = [] ∨ a.getLast? = some '\n') (hlines : logicalLines a = .ok lines)
    (hmode : modeAt a (byteLength a) ≠ .blockComment) (b : List Char) :
    logicalLines (a ++ b) =
      match logicalLines b with
      | .ok more => .ok (lines ++ more.map (Line.shifted (byteLength a) (a.count '\n')))
      | .error malformed => .error (malformed.shifted (a.count '\n')) := by
  have hcode : Mode.code.afterLines (physicalLines a) = .code := by
    have hat := modeAt_of_physicalLines (List.append_nil (physicalLines a)).symm
    rw [Text.flatten_physicalLines] at hat
    rw [hat] at hmode
    exact (Mode.afterLines_code _).resolve_right hmode
  have hshifted := logicalFrom_shifted .code 1 0 none (physicalLines b) (byteLength a)
    (a.count '\n')
  rw [Option.map_none, Nat.add_comm _ 1, Nat.add_comm _ 0] at hshifted
  rw [logicalLines, Text.physicalLines_append_of_ended hend, logicalFrom_append hlines, hcode,
    Text.flatten_physicalLines, Text.length_physicalLines hend, hshifted, logicalLines]
  cases logicalFrom .code 1 0 none (physicalLines b) <;> rfl

/-- A header over two physical lines, with a comment about parentheses. -/
def sampleHeader : List Char :=
  ".method void M(int32 a,\n  int32 b) /* ) */\n\x7b // (\n".toList

theorem logicalLines_append_sampleHeader :
    (sampleHeader.getLast? = some '\n' ∧
      logicalLines sampleHeader =
        .ok [⟨".method void M(int32 a,\n  int32 b) /* ) */\n".toList, 0, 1, 0, 0⟩,
          ⟨"\x7b // (\n".toList, 43, 3, 1, 0⟩] ∧
      modeAt sampleHeader (byteLength sampleHeader) ≠ .blockComment) ∧
      logicalLines (sampleHeader ++ "\x7d\n".toList) =
        .ok [⟨".method void M(int32 a,\n  int32 b) /* ) */\n".toList, 0, 1, 0, 0⟩,
          ⟨"\x7b // (\n".toList, 43, 3, 1, 0⟩, ⟨"\x7d\n".toList, 50, 4, 0, 1⟩] ∧
      logicalLines (sampleHeader ++ "ret\n)\n".toList) = .error ⟨5, .closeParen⟩ := by
  have hend : sampleHeader.getLast? = some '\n' := by decide
  have hlines : logicalLines sampleHeader =
      .ok [⟨".method void M(int32 a,\n  int32 b) /* ) */\n".toList, 0, 1, 0, 0⟩,
        ⟨"\x7b // (\n".toList, 43, 3, 1, 0⟩] := by rfl
  have hmode : modeAt sampleHeader (byteLength sampleHeader) ≠ .blockComment := by decide
  refine ⟨⟨hend, hlines, hmode⟩, ?_, ?_⟩
  · exact (logicalLines_append (.inr hend) hlines hmode "\x7d\n".toList).trans rfl
  · exact (logicalLines_append (.inr hend) hlines hmode "ret\n)\n".toList).trans rfl

end PluginBuild.Listing
