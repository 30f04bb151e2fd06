import PluginBuild.Plugin.Decision
import PluginBuild.Proofs.Listing.MethodBody
import PluginBuild.Proofs.Listing.ExportMarker
/-!
# Trimming a listing

Trimming takes the markers of exports to be removed out of the bodies of methods that are blocks
(`trim_methodBodies`); from other layouts of the braces it does not
(`exists_marker_inside_method`). Where the markers that go are plain, the trimmed listing is read
as the edited outline, and trimming it once more changes nothing (`trim_reread`).
-/

namespace PluginBuild

open Listing

namespace Decision

/-- A listing is trimmed by a removal from its outline. -/
theorem trim_eq_ok_iff {d : Decision} {text out : List Char} {report : RemovalReport} :
    d.trim text = .ok (out, report) ↔ ∃ outline, Outline.ofText text = .ok outline ∧
      (outline.removeExports d.stripped).text = out ∧
      outline.removalReport d.stripped = report := by
  rw [trim]
  cases Outline.ofText text with
  | error malformed => simp
  | ok outline => simp [trimOutline]

/-- The line is the marker of an export to be removed. -/
def Strips (d : Decision) (line : Line) : Prop :=
  ∃ marker, ExportMarker.ofLine? line.text = some marker ∧ marker.name ∈ d.stripped

instance (d : Decision) (line : Line) : Decidable (d.Strips line) :=
  decidable_of_iff ((ExportMarker.ofLine? line.text).any (·.name ∈ d.stripped)) (by
    cases hmarker : ExportMarker.ofLine? line.text <;> simp [Strips, hmarker])

/-- A trimmed listing has the lines of the listing but for the markers to be removed in the bodies
of methods that are blocks. Where each of these opens as many braces as it closes, and leaves the
mode as it was, no such marker is in a body of that kind in the trimmed listing as it is read. -/
theorem trim_methodBodies {d : Decision} {text out : List Char} {report : RemovalReport}
    (h : d.trim text = .ok (out, report)) :
    ∃ lines kept : List Line, logicalLines text = .ok lines ∧ kept.Sublist lines ∧
      out = kept.flatMap Line.text ∧
      (∀ before line after, lines = before ++ line :: after →
        (line ∈ kept ↔ ¬ (d.Strips line ∧ InMethodBody .module before line after))) ∧
      ((∀ line ∈ lines, line ∉ kept →
          line.net = 0 ∧ modeAt text line.stop = modeAt text line.start) →
        ∃ left, logicalLines out = .ok left ∧ ∀ before line after, left = before ++ line :: after →
          d.Strips line → ¬ InMethodBody .module before line after) := by
  obtain ⟨outline, houtline, rfl, -⟩ := trim_eq_ok_iff.1 h
  obtain ⟨lines, hlines, hreads⟩ := ofText_eq_ok_iff.1 houtline
  have hsame := hreads.lines_eq
  subst hsame
  refine ⟨outline.lines, (outline.removeExports d.stripped).lines, hlines,
    lines_removeExports_sublist d.stripped outline, rfl,
    fun before line after hsplit => mem_lines_removeExports_iff houtline hsplit, fun hleaves => ?_⟩
  have hneutral (line : Line) (hline : line ∈ outline.removedLines d.stripped) :
      line.net = 0 ∧ modeAt text line.stop = modeAt text line.start := by
    have hnodup := (laidOut_logicalLines hlines).1.nodup
    obtain ⟨hmem, hout⟩ := (Outline.mem_removedLines_iff hnodup).1 hline
    exact hleaves line hmem hout
  obtain ⟨again, hagain, hunplaced⟩ := ofText_removeExports houtline hneutral
  obtain ⟨left, hleft, hreadsAgain⟩ := ofText_eq_ok_iff.1 hagain
  refine ⟨left, hleft, fun before line after hsplit hstrips hbody => ?_⟩
  -- A second removal would take the line out, and it takes out nothing.
  rw [← hreadsAgain.lines_eq] at hsplit
  have hkept : line ∈ (again.removeExports d.stripped).lines := by
    rw [lines_removeExports_of_unplaced hunplaced, hsplit]
    simp
  exact (mem_lines_removeExports_iff hagain hsplit).1 hkept ⟨hstrips, hbody⟩

/-- The decision to remove one export. -/
def stripOnly (name : String) : Decision := ⟨.fileSystem, false, [(name, .strip)]⟩

/-- The sample listing is trimmed of its marker, and has no other in a body. -/
theorem trim_methodBodies_sampleListing :
    ∃ out report left,
      (stripOnly "M").trim sampleListing = .ok (out, report) ∧ out ≠ sampleListing ∧
      logicalLines out = .ok left ∧
      ∀ before line after, left = before ++ line :: after →
        (stripOnly "M").Strips line → ¬ InMethodBody .module before line after := by
  have htext : (Outline.ofText sampleListing).map (fun outline =>
      decide ((outline.removeExports (stripOnly "M").stripped).text = sampleListing)) =
        .ok false := by
    decide +kernel
  have hmarkers : (logicalLines sampleListing).map (fun lines =>
      decide (∀ line ∈ lines, (stripOnly "M").Strips line → line.net = 0 ∧
        modeAt sampleListing line.stop = modeAt sampleListing line.start)) = .ok true := by
    decide +kernel
  obtain ⟨outline, houtline, hout⟩ := exists_ok_of_map_eq_ok htext
  have htrim := (trim_eq_ok_iff (d := stripOnly "M")).2 ⟨outline, houtline, rfl, rfl⟩
  obtain ⟨lines, kept, hlines, -, -, hkept, hleft⟩ := trim_methodBodies htrim
  rw [hlines] at hmarkers
  have hneutral := of_decide_eq_true (Except.ok.inj hmarkers)
  obtain ⟨left, hlogical, hnone⟩ := hleft fun line hline hgone => by
    obtain ⟨before, after, hsplit⟩ := List.append_of_mem hline
    rw [hkept before line after hsplit, not_not] at hgone
    exact hneutral line hline hgone.1
  exact ⟨_, _, left, htrim, of_decide_eq_false hout, hlogical, hnone⟩

/-- Trimming leaves the marker of an export to be removed inside a method. -/
def LeavesMarker (d : Decision) (text : List Char) : Prop :=
  ∃ out report before line after, d.trim text = .ok (out, report) ∧
    logicalLines out = .ok (before ++ line :: after) ∧ d.Strips line ∧ InsideMethod before

/-- A marker is left where the trimmed text has it after lines that open a method. -/
theorem leavesMarker_of_trim (text out : List Char) (before : List Line) (line : Line)
    (after : List Line)
    (htrim : (Outline.ofText text).map (fun outline =>
      (outline.removeExports (stripOnly "FsGetFile").stripped).text) = .ok out)
    (hlines : logicalLines out = .ok (before ++ line :: after))
    (hline : line.text = ".export [1] as FsGetFile\n".toList) (hinside : InsideMethod before) :
    (stripOnly "FsGetFile").LeavesMarker text := by
  obtain ⟨outline, houtline, hout⟩ := exists_ok_of_map_eq_ok htrim
  have hmarker : ExportMarker.ofLine? line.text = some ⟨some 1, "FsGetFile"⟩ := by
    rw [hline]
    decide +kernel
  exact ⟨out, _, before, line, after, trim_eq_ok_iff.2 ⟨outline, houtline, hout, rfl⟩, hlines,
    ⟨_, hmarker, by decide +kernel⟩, hinside⟩

/-- A declaration opens its body with a brace alone on the next line. -/
theorem opensBody_next {header brace : Line} (hheader : header.opens = 0)
    (hbrace : brace.text = ['\x7b', '\n']) (hopens : 0 < brace.opens) :
    OpensBody header [brace] := by
  have hleads : brace.leadsToBody = true := by
    rw [Line.leadsToBody, Line.goesOn, Line.trimmed, hbrace]
    decide +kernel
  exact @OpensBody.later header [] brace hheader (by simp) hleads hopens

/-- In a type or namespace whose brace is on the line below its header. -/
theorem amongDeclarations_next {before : List Line} {header brace : Line}
    (hbefore : AmongDeclarations before)
    (hkeyword : header.keyword = ".class" ∨ header.keyword = ".namespace")
    (hopens : OpensBody header [brace]) (hdepth : netOf [header, brace] = 1) :
    AmongDeclarations (before ++ [header, brace]) :=
  .within hbefore hkeyword hopens hdepth Int.one_pos rfl

/-- In a method whose brace is on the line below its header. -/
theorem insideMethod_next {before : List Line} {header brace : Line}
    (hbefore : AmongDeclarations before) (hkeyword : header.keyword = ".method")
    (hopens : OpensBody header [brace]) (hdepth : 0 < netOf [header, brace]) :
    InsideMethod (before ++ [header, brace]) :=
  .mk hbefore hkeyword hopens hdepth

/-- A blank line between the header and the body of a method. -/
def blankBeforeBody : List Char :=
  ".method void GetFile()\n\n\x7b\n.export [1] as FsGetFile\n\x7d\n".toList

/-- A line that closes the body of a method and of the type around it. -/
def closedWithType : List Char :=
  (".class Exports\n\x7b\n.method void GetFile()\n\x7b\n.export [1] as FsGetFile\n" ++
    "\x7d\x7d\n").toList

/-- A namespace in a type, with its brace on a line of its own. -/
def namespaceInType : List Char :=
  (".class Exports\n\x7b\n.namespace Files\n\x7b\n.method void GetFile()\n\x7b\n" ++
    ".export [1] as FsGetFile\n\x7d\n\x7d\n\x7d\n").toList

/-- A marker that closes the body of its method, before another. -/
def closedByMarker : List Char :=
  (".method void GetFile()\n\x7b\n.export [\x7d] as FsGetFile\n" ++
    ".export [1] as FsGetFile\n").toList

/-- Markers are left in layouts of four kinds: the header of a method ends at a blank line, a type
has a bound with more than its own brace, a namespace in a type opens below its header, and a
marker that goes has a brace. -/
theorem exists_marker_inside_method :
    (stripOnly "FsGetFile").LeavesMarker blankBeforeBody ∧
      (stripOnly "FsGetFile").LeavesMarker closedWithType ∧
      (stripOnly "FsGetFile").LeavesMarker namespaceInType ∧
      (stripOnly "FsGetFile").LeavesMarker closedByMarker := by
  refine ⟨?_, ?_, ?_, ?_⟩
  · -- The declaration ends at the blank line; the braces below it are a block of their own.
    have hinside : InsideMethod ([] ++ ⟨".method void GetFile()\n".toList, 0, 1, 0, 0⟩ ::
        (([⟨['\n'], 23, 2, 0, 0⟩] ++ [⟨['\x7b', '\n'], 24, 3, 1, 0⟩]) ++ [])) :=
      .mk (.top rfl) (by decide +kernel)
        (.later rfl (by decide +kernel) (by decide +kernel) (by decide)) (by decide)
    exact leavesMarker_of_trim blankBeforeBody blankBeforeBody _
      ⟨".export [1] as FsGetFile\n".toList, 26, 4, 0, 0⟩ [⟨['\x7d', '\n'], 51, 5, 0, 1⟩]
      (by decide +kernel) (by decide +kernel) rfl hinside
  · -- The line that closes the type closes two braces, so the body of the type is kept flat.
    have htype : AmongDeclarations ([] ++ [⟨".class Exports\n".toList, 0, 1, 0, 0⟩,
        ⟨['\x7b', '\n'], 15, 2, 1, 0⟩]) :=
      amongDeclarations_next (.top rfl) (by decide +kernel) (opensBody_next rfl rfl Nat.one_pos) rfl
    have hinside : InsideMethod (_ ++ [⟨".method void GetFile()\n".toList, 17, 3, 0, 0⟩,
        ⟨['\x7b', '\n'], 40, 4, 1, 0⟩]) :=
      insideMethod_next htype (by decide +kernel) (opensBody_next rfl rfl Nat.one_pos) (by decide)
    exact leavesMarker_of_trim closedWithType closedWithType _
      ⟨".export [1] as FsGetFile\n".toList, 42, 5, 0, 0⟩ [⟨['\x7d', '\x7d', '\n'], 67, 6, 0, 2⟩]
      (by decide +kernel) (by decide +kernel) rfl hinside
  · -- In a type the header of the namespace is a line, and its braces are a block of their own.
    have htype : AmongDeclarations ([] ++ [⟨".class Exports\n".toList, 0, 1, 0, 0⟩,
        ⟨['\x7b', '\n'], 15, 2, 1, 0⟩]) :=
      amongDeclarations_next (.top rfl) (by decide +kernel) (opensBody_next rfl rfl Nat.one_pos) rfl
    have hnamespace : AmongDeclarations (_ ++ [⟨".namespace Files\n".toList, 17, 3, 0, 0⟩,
        ⟨['\x7b', '\n'], 34, 4, 1, 0⟩]) :=
      amongDeclarations_next htype (by decide +kernel) (opensBody_next rfl rfl Nat.one_pos) rfl
    have hinside : InsideMethod (_ ++ [⟨".method void GetFile()\n".toList, 36, 5, 0, 0⟩,
        ⟨['\x7b', '\n'], 59, 6, 1, 0⟩]) :=
      insideMethod_next hnamespace (by decide +kernel) (opensBody_next rfl rfl Nat.one_pos)
        (by decide)
    exact leavesMarker_of_trim namespaceInType namespaceInType _
      ⟨".export [1] as FsGetFile\n".toList, 61, 7, 0, 0⟩
      [⟨['\x7d', '\n'], 86, 8, 0, 1⟩, ⟨['\x7d', '\n'], 88, 9, 0, 1⟩, ⟨['\x7d', '\n'], 90, 10, 0, 1⟩]
      (by decide +kernel) (by decide +kernel) rfl hinside
  · -- With the first marker goes the brace that closed the body, and the second is in it then.
    have hinside : InsideMethod ([] ++ [⟨".method void GetFile()\n".toList, 0, 1, 0, 0⟩,
        ⟨['\x7b', '\n'], 23, 2, 1, 0⟩]) :=
      insideMethod_next (.top rfl) (by decide +kernel) (opensBody_next rfl rfl Nat.one_pos)
        (by decide)
    exact leavesMarker_of_trim closedByMarker
      ".method void GetFile()\n\x7b\n.export [1] as FsGetFile\n".toList _
      ⟨".export [1] as FsGetFile\n".toList, 25, 3, 0, 0⟩ []
      (by decide +kernel) (by decide +kernel) rfl hinside

/-- Where the markers that go are plain and start in code, what is left is read as the edited
outline but for the places of its lines. It has the other exports, and trimming it once more gives
it again and takes nothing out. -/
theorem trim_reread {text : List Char} {names : List String} {outline : Outline}
    (h : Outline.ofText text = .ok outline)
    (hplain : ∀ line ∈ outline.removedLines names,
      PlainMarker line.text ∧ modeAt text line.start = .code) :
    ∃ again, Outline.ofText (outline.removeExports names).text = .ok again ∧
      again.unplaced = (outline.removeExports names).unplaced ∧
      again.exports = outline.exports.filter (fun entry => entry.2.name ∉ names) ∧
      ∀ d : Decision, (∀ name, name ∈ d.stripped ↔ name ∈ names) →
        ∃ first second, d.trim text = .ok ((outline.removeExports names).text, first) ∧
          d.trim (outline.removeExports names).text =
            .ok ((outline.removeExports names).text, second) ∧ second.removed = [] := by
  obtain ⟨lines, hlines, hreads⟩ := ofText_eq_ok_iff.1 h
  have hneutral (line : Line) (hline : line ∈ outline.removedLines names) :
      line.net = 0 ∧ modeAt text line.stop = modeAt text line.start := by
    obtain ⟨hmarker, hcode⟩ := hplain line hline
    have hmem : line ∈ lines := by
      rw [← hreads.lines_eq, ← (Outline.lines_removeExports_perm names outline).mem_iff]
      exact List.mem_append_right _ hline
    exact plainMarker_neutral hlines hmem hmarker hcode
  obtain ⟨again, hagain, hunplaced⟩ := ofText_removeExports h hneutral
  have hexports : again.exports = outline.exports.filter fun entry => entry.2.name ∉ names := by
    rw [Outline.exports_eq_of_unplaced hunplaced, Outline.exports_removeExports]
  refine ⟨again, hagain, hunplaced, hexports, fun d hd => ?_⟩
  have hsame (o : Outline) : o.removeExports d.stripped = o.removeExports names :=
    Outline.removeExports_congr hd o
  have htext : (again.removeExports names).text = (outline.removeExports names).text := by
    rw [← Outline.text_eq_of_unplaced hunplaced, Outline.text, Outline.text,
      lines_removeExports_of_unplaced hunplaced]
  have hfirst : d.trim text =
      .ok ((outline.removeExports names).text, outline.removalReport d.stripped) :=
    trim_eq_ok_iff.2 ⟨outline, h, by rw [hsame], rfl⟩
  have hsecond : d.trim (outline.removeExports names).text =
      .ok ((outline.removeExports names).text, again.removalReport d.stripped) :=
    trim_eq_ok_iff.2 ⟨again, hagain, by rw [hsame, htext], rfl⟩
  refine ⟨_, _, hfirst, hsecond, Outline.removed_eq_nil fun entry hentry => ?_⟩
  rw [hexports, List.mem_filter, decide_eq_true_iff] at hentry
  rw [hd]
  exact hentry.2

/-- The marker of the sample listing can be trimmed away, once. -/
theorem trim_reread_sampleListing :
    ∃ outline again, Outline.ofText sampleListing = .ok outline ∧
      (outline.removedLines ["M"]).map (·.number) = [5] ∧
      Outline.ofText (outline.removeExports ["M"]).text = .ok again ∧
      again.unplaced = (outline.removeExports ["M"]).unplaced ∧
      ∃ out first second, (stripOnly "M").trim sampleListing = .ok (out, first) ∧
        (stripOnly "M").trim out = .ok (out, second) ∧ second.removed = [] := by
  have hremoved : (Outline.ofText sampleListing).map (fun outline =>
      (outline.removedLines ["M"]).map fun line =>
        (line.number, line.text, modeAt sampleListing line.start)) =
      .ok [(5, "    .export [1] as M\n".toList, .code)] := by
    decide +kernel
  obtain ⟨outline, houtline, hlines⟩ := exists_ok_of_map_eq_ok hremoved
  have hspace : Spaces [' '] := spaces_of_all (by decide +kernel)
  have hordinal : Ordinal "[1]".toList := .some (s := ['1']) (by simp)
  have hname : Identifier ['M'] := .word (by decide) (by simp [special]; decide +kernel)
  have hmarker : PlainMarker "    .export [1] as M\n".toList :=
    @PlainMarker.mk "    ".toList [' '] "[1]".toList [' '] [' '] ['M'] [] [] ['\n']
      (spaces_of_all (by decide +kernel)) hspace hordinal hspace hspace hname
      (spaces_of_all rfl) .none (.inr rfl)
  have hplain : ∀ line ∈ outline.removedLines ["M"],
      PlainMarker line.text ∧ modeAt sampleListing line.start = .code := by
    intro line hline
    have hmem := List.mem_map_of_mem (f := fun line : Line =>
      (line.number, line.text, modeAt sampleListing line.start)) hline
    rw [hlines, List.mem_singleton] at hmem
    obtain ⟨-, htext, hmode⟩ := by simpa only [Prod.mk.injEq] using hmem
    exact ⟨htext ▸ hmarker, hmode⟩
  have hnumbers : (outline.removedLines ["M"]).map (·.number) = [5] := by
    have hfirst := congrArg (List.map (·.1)) hlines
    rwa [List.map_map] at hfirst
  obtain ⟨again, hagain, hunplaced, -, htrim⟩ := trim_reread houtline hplain
  obtain ⟨first, second, hfirst, hsecond, hnone⟩ :=
    htrim (stripOnly "M") fun _ => Iff.rfl
  exact ⟨outline, again, houtline, hnumbers, hagain, hunplaced, _, first, second, hfirst,
    hsecond, hnone⟩

end Decision

end PluginBuild
