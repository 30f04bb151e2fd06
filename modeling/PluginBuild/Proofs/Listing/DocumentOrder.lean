import Mathlib.Control.Monad.Basic
import PluginBuild.Proofs.Listing.Outline
import PluginBuild.Proofs.Listing.Reading
/-!
# The outline of a text loses nothing

In document order the lines of an outline are the logical lines of its text, each once and at its
own place (`ofText_lossless`).
-/

namespace PluginBuild.Listing

open Text (byteLength)

/-- The lines stand end to end from one place to another. -/
def Tiles (start stop : Nat) : List Line → Prop
  | [] => start = stop
  | line :: rest => line.start = start ∧ Tiles line.stop stop rest

/-- The line is the piece of the text at its place, in the physical line that its number says. -/
def Line.StandsIn (line : Line) (text : List Char) : Prop :=
  ∃ before after, text = before ++ (line.text ++ after) ∧ line.start = byteLength before ∧
    line.number = 1 + before.count '\n'

/-- Lines laid out one after another stand end to end. -/
theorem LaidOut.tiles {before : List Char} {lines : List Line} (h : LaidOut before lines) :
    Tiles (byteLength before) (byteLength (before ++ lines.flatMap Line.text)) lines := by
  induction lines generalizing before with
  | nil => simp [Tiles]
  | cons line rest ih =>
    have hstop : line.stop = byteLength (before ++ line.text) := by
      rw [Line.stop, h.1.2.1, Text.byteLength_append]
    refine ⟨h.1.2.1, ?_⟩
    rw [hstop, List.flatMap_cons, ← List.append_assoc]
    exact ih h.2

/-- Lines laid out behind a text stand in the text with them. -/
theorem LaidOut.standsIn {before : List Char} {lines : List Line} (h : LaidOut before lines) :
    ∀ line ∈ lines, line.StandsIn (before ++ lines.flatMap Line.text) := by
  induction lines generalizing before with
  | nil => simp
  | cons line rest ih =>
    intro other hother
    rw [List.flatMap_cons]
    rcases List.mem_cons.1 hother with rfl | hother
    · exact ⟨before, rest.flatMap Line.text, rfl, h.1.2⟩
    · rw [← List.append_assoc]
      exact ih h.2 other hother

theorem Extent.lines_around (e : Extent) (inner : Outline) :
    (e.around inner).lines = e.clause ++ (inner.lines ++ e.close.toList) := by
  rw [around, Outline.lines_append, Outline.lines_append, Outline.lines_ofLines,
    Outline.lines_ofLines]

/-- The lines of a block stand around those in its body, before the lines after the block. -/
theorem Extent.lines_ofBlock (e : Extent) (kind : BlockKind) (header : Line)
    (inner rest : Outline) :
    (Outline.ofBlock kind header (e.around inner) rest).lines =
      header :: (e.clause ++ (inner.lines ++ (e.close.toList ++ rest.lines))) := by
  rw [Outline.ofBlock, Outline.lines, lines_around, List.append_assoc, List.append_assoc]

/-- The lines that an outline is read from are its lines. -/
theorem Reads.lines_eq {region : Region} {lines : List Line} {outline : Outline}
    (h : Reads region lines outline) : outline.lines = lines := by
  induction h with
  | nil => rfl
  | leaf _ _ ih => rw [Outline.lines, ih]
  | flat _ hextent _ _ ih =>
    rw [Extent.lines_ofBlock, ih, Outline.lines_ofLines, hextent.eq_append, Extent.lines,
      List.append_assoc, List.append_assoc]
  | nested _ hextent _ _ _ ihinner ih =>
    rw [Extent.lines_ofBlock, ih, ihinner, hextent.eq_append, Extent.lines, List.append_assoc,
      List.append_assoc]

/-- An outline of a text is read from its logical lines. -/
theorem ofText_eq_ok_iff {text : List Char} {outline : Outline} :
    Outline.ofText text = .ok outline ↔
      ∃ lines, logicalLines text = .ok lines ∧ Reads .module lines outline := by
  rw [Outline.ofText]
  cases hlines : logicalLines text with
  | error malformed =>
    refine ⟨fun h => ?_, fun ⟨lines, h, _⟩ => ?_⟩
    · cases h
    · cases h
  | ok lines =>
    refine outlineOf_eq_ok_iff.trans ⟨fun h => ⟨lines, rfl, h⟩, fun ⟨others, h, hreads⟩ => ?_⟩
    cases h
    exact hreads

/-- A listing with a method that is exported. -/
def sampleListing : List Char :=
  (".class C\n\x7b\n  .method void M()\n  \x7b\n    .export [1] as M\n    ret\n" ++
    "  \x7d\n\x7d\n").toList

/-- The outline of a text has the logical lines of the text in document order. They are the text,
stand end to end from its start to its end, and each is the piece of the text at its place. -/
theorem ofText_lossless {text : List Char} {outline : Outline}
    (h : Outline.ofText text = .ok outline) :
    logicalLines text = .ok outline.lines ∧ outline.text = text ∧
      Tiles 0 (byteLength text) outline.lines ∧
      ∀ line ∈ outline.lines, line.StandsIn text := by
  obtain ⟨lines, hlines, hreads⟩ := ofText_eq_ok_iff.1 h
  obtain ⟨hlaid, htext⟩ := laidOut_logicalLines hlines
  have htiles := hlaid.tiles
  have hstands := hlaid.standsIn
  rw [List.nil_append, htext] at htiles hstands
  rw [Outline.text, hreads.lines_eq]
  exact ⟨hlines, htext, htiles, hstands⟩

/-- The sample listing has an outline of eight lines, which is lossless. -/
theorem ofText_lossless_sampleListing :
    ∃ outline, Outline.ofText sampleListing = .ok outline ∧ outline.lines.length = 8 ∧
      logicalLines sampleListing = .ok outline.lines ∧ outline.text = sampleListing ∧
      Tiles 0 (byteLength sampleListing) outline.lines ∧
      ∀ line ∈ outline.lines, line.StandsIn sampleListing := by
  have hlength : (Outline.ofText sampleListing).map (·.lines.length) = .ok 8 := by
    decide +kernel
  obtain ⟨outline, houtline, hlines⟩ := exists_ok_of_map_eq_ok hlength
  exact ⟨outline, houtline, hlines, ofText_lossless houtline⟩

end PluginBuild.Listing
