import PluginBuild.Proofs.Listing.Apart
import PluginBuild.Proofs.Listing.Rereading
import PluginBuild.Proofs.Listing.Token
/-!
# The lines of a declaration

A declaration goes on over the lines before its first opening brace. The reader counts the braces
in code; the text of the declaration is cut at the first brace there is, which may stand in a
literal or a comment. So the text is that of the first lines of the declaration, and of all of them
where no such brace stands before the one that counts (`PlainlyCut`). There a method states the
same on several lines as on one (`ofText_declarations`).
-/

namespace PluginBuild.Listing

open Text

/-- The lines that go on with a declaration: those before the first with an opening brace in code,
and that line as well if it does not begin with the brace. -/
def clauseLines (lines : List Line) : List Line :=
  lines.takeWhile (·.opens = 0) ++
    ((lines.find? (0 < ·.opens)).filter (·.trimmed.head? ≠ some '\x7b')).toList

/-- A line and those that go on with it, which a brace in the line cuts off. -/
def cutAfter (line : Line) (more : List Line) : List Line :=
  line :: if '\x7b' ∈ line.text then [] else more

/-- The lines up to the first brace of any kind. -/
def cutLines : List Line → List Line
  | [] => []
  | line :: rest =>
    if line.trimmed.head? = some '\x7b' then [] else cutAfter line (cutLines rest)

/-- Nothing is open at the end of the line: no literal, no brackets and no comment. -/
def Line.IsWhole (line : Line) : Prop := endsOutside (trimEnd line.text ++ [' ']) = true

instance (line : Line) : Decidable line.IsWhole :=
  inferInstanceAs (Decidable (endsOutside _ = true))

/-- The lines as one, each behind the one before it with a space between. -/
def onOneLine : List Line → List Char
  | [] => []
  | [line] => line.text
  | line :: next :: rest => trimEnd line.text ++ ' ' :: trimStart (onOneLine (next :: rest))

namespace Block

/-- The header of a block, with the lines that go on with its declaration. -/
def declaredLines (block : Block) : List Line :=
  block.header :: if 0 < block.header.opens then [] else clauseLines block.body.lines

/-- The lines of a declaration up to the first brace of any kind. -/
def cutLines (block : Block) : List Line :=
  cutAfter block.header (Listing.cutLines block.body.lines)

/-- No line of the declaration but the last has a brace, and none behind the header begins with
one. -/
def PlainlyCut (block : Block) : Prop :=
  (∀ line ∈ block.declaredLines.dropLast, '\x7b' ∉ line.text) ∧
    ∀ line ∈ block.declaredLines.tail, line.trimmed.head? ≠ some '\x7b'

instance (block : Block) : Decidable block.PlainlyCut := inferInstanceAs (Decidable (_ ∧ _))

end Block

/-! ### Where a declaration is cut -/

theorem clauseLines_cons_of_opens {line : Line} (h : 0 < line.opens) (rest : List Line) :
    clauseLines (line :: rest) = if line.trimmed.head? = some '\x7b' then [] else [line] := by
  have hne : line.opens ≠ 0 := Nat.pos_iff_ne_zero.1 h
  by_cases hbrace : line.trimmed.head? = some '\x7b'
  · simp [clauseLines, hne, h, hbrace]
  · simp [clauseLines, hne, h, hbrace]

theorem clauseLines_cons_of_opens_eq_zero {line : Line} (h : line.opens = 0) (rest : List Line) :
    clauseLines (line :: rest) = line :: clauseLines rest := by
  simp [clauseLines, h]

theorem clauseLines_sublist (lines : List Line) : (clauseLines lines).Sublist lines := by
  induction lines with
  | nil => exact .refl []
  | cons line rest ih =>
    by_cases hopens : 0 < line.opens
    · rw [clauseLines_cons_of_opens hopens]
      split
      · exact List.nil_sublist _
      · exact (List.nil_sublist rest).cons_cons line
    · rw [clauseLines_cons_of_opens_eq_zero (Nat.eq_zero_of_not_pos hopens)]
      exact ih.cons_cons line

section

variable {first : Line} {more clause : List Line}

theorem cutAfter_of_mem (h : '\x7b' ∈ first.text) : cutAfter first more = [first] := by
  rw [cutAfter, if_pos h]

theorem cutAfter_prefix (h : more <+: clause) : cutAfter first more <+: first :: clause := by
  rw [cutAfter]
  split
  · exact List.cons_prefix_cons.2 ⟨rfl, List.nil_prefix⟩
  · exact List.cons_prefix_cons.2 ⟨rfl, h⟩

theorem cutAfter_eq_iff (h : more = clause ↔ (∀ line ∈ clause.dropLast, '\x7b' ∉ line.text) ∧
    ∀ line ∈ clause, line.trimmed.head? ≠ some '\x7b') :
    cutAfter first more = first :: clause ↔
      (∀ line ∈ (first :: clause).dropLast, '\x7b' ∉ line.text) ∧
        ∀ line ∈ clause, line.trimmed.head? ≠ some '\x7b' := by
  rw [cutAfter, List.cons_inj_right]
  cases clause with
  | nil =>
    have hmore : more = [] := h.2 ⟨by simp, by simp⟩
    simp [hmore]
  | cons next rest =>
    rw [List.dropLast_cons_cons, List.forall_mem_cons, and_assoc, ← h]
    by_cases hbrace : '\x7b' ∈ first.text
    · simp [hbrace]
    · simp [hbrace]

end

/-- The text of a declaration is cut at its first brace. -/
theorem declaration_ofLines (header : Line) (lines : List Line) :
    Outline.declaration header.text (.ofLines lines) =
      (cutAfter header (cutLines lines)).flatMap Line.text := by
  have hclause : (Outline.ofLines lines).clauseText = (cutLines lines).flatMap Line.text := by
    induction lines with
    | nil => rfl
    | cons line rest ih =>
      rw [Outline.ofLines, Outline.clauseText, cutLines, ih, cutAfter]
      split
      · rfl
      · split
        · rw [List.flatMap_singleton]
        · rfl
  rw [Outline.declaration, cutAfter, hclause]
  split
  · rw [List.flatMap_singleton]
  · rfl

section

variable {lines : List Line} (hbraces : ∀ line ∈ lines, 0 < line.opens → '\x7b' ∈ line.text)
include hbraces

/-- The first brace is no later than the first in code. -/
theorem cutLines_prefix : cutLines lines <+: clauseLines lines := by
  induction lines with
  | nil => exact List.nil_prefix
  | cons line rest ih =>
    obtain ⟨hline, hrest⟩ := List.forall_mem_cons.1 hbraces
    rw [cutLines]
    by_cases hstart : line.trimmed.head? = some '\x7b'
    · rw [if_pos hstart]
      exact List.nil_prefix
    rw [if_neg hstart]
    by_cases hopens : 0 < line.opens
    · rw [clauseLines_cons_of_opens hopens, if_neg hstart]
      exact ⟨[], by rw [cutAfter_of_mem (hline hopens), List.append_nil]⟩
    · rw [clauseLines_cons_of_opens_eq_zero (Nat.eq_zero_of_not_pos hopens)]
      exact cutAfter_prefix (ih hrest)

theorem cutLines_eq_iff : cutLines lines = clauseLines lines ↔
    (∀ line ∈ (clauseLines lines).dropLast, '\x7b' ∉ line.text) ∧
      ∀ line ∈ clauseLines lines, line.trimmed.head? ≠ some '\x7b' := by
  induction lines with
  | nil => exact ⟨fun _ => ⟨by simp [clauseLines], by simp [clauseLines]⟩, fun _ => rfl⟩
  | cons line rest ih =>
    obtain ⟨hline, hrest⟩ := List.forall_mem_cons.1 hbraces
    rw [cutLines]
    by_cases hopens : 0 < line.opens
    · -- The declaration ends here for either count of the braces.
      rw [clauseLines_cons_of_opens hopens, cutAfter_of_mem (hline hopens)]
      by_cases hstart : line.trimmed.head? = some '\x7b'
      · simp [hstart]
      · simp [hstart]
    rw [clauseLines_cons_of_opens_eq_zero (Nat.eq_zero_of_not_pos hopens)]
    by_cases hstart : line.trimmed.head? = some '\x7b'
    · -- The brace is in a comment or a literal that began before the line.
      simp [hstart]
    · rw [if_neg hstart, List.forall_mem_cons, and_iff_right hstart]
      exact cutAfter_eq_iff (ih hrest)

end

section

variable {block : Block}
  (hbraces : ∀ line ∈ block.header :: block.body.lines, 0 < line.opens → '\x7b' ∈ line.text)
include hbraces

theorem Block.cutLines_prefix : block.cutLines <+: block.declaredLines := by
  obtain ⟨hheader, hlines⟩ := List.forall_mem_cons.1 hbraces
  rw [cutLines, declaredLines]
  by_cases hopens : 0 < block.header.opens
  · rw [if_pos hopens]
    exact ⟨[], by rw [cutAfter_of_mem (hheader hopens), List.append_nil]⟩
  · rw [if_neg hopens]
    exact cutAfter_prefix (Listing.cutLines_prefix hlines)

theorem Block.cutLines_eq_iff : block.cutLines = block.declaredLines ↔ block.PlainlyCut := by
  obtain ⟨hheader, hlines⟩ := List.forall_mem_cons.1 hbraces
  rw [cutLines, PlainlyCut, declaredLines, List.tail_cons]
  by_cases hopens : 0 < block.header.opens
  · rw [cutAfter_of_mem (hheader hopens), if_pos hopens]
    simp
  · rw [if_neg hopens]
    exact cutAfter_eq_iff (Listing.cutLines_eq_iff hlines)

end

/-- Of the first lines and all of them, the text is the same only where they are all. -/
theorem flatMap_text_eq_iff {a b : List Line} (h : a <+: b) (htexts : ∀ line ∈ b, line.text ≠ []) :
    a.flatMap Line.text = b.flatMap Line.text ↔ a = b := by
  refine ⟨fun heq => ?_, fun heq => heq ▸ rfl⟩
  obtain ⟨more, rfl⟩ := h
  cases more with
  | nil => rw [List.append_nil]
  | cons line more =>
    rw [List.flatMap_append, List.self_eq_append_right, List.flatMap_cons,
      List.append_eq_nil_iff] at heq
    exact absurd heq.1 (htexts line (by simp))

/-! ### The blocks of an outline -/

section

variable {region : Region} {lines : List Line} {outline : Outline} {block : Block}

/-- The declaration of a block is cut from its lines, whichever blocks they make. -/
theorem Reads.declaration_eq (h : Reads region lines outline)
    (hbraces : ∀ line ∈ lines, 0 < line.opens → '\x7b' ∈ line.text)
    (hblock : block ∈ outline.allBlocks) :
    block.declaration = block.cutLines.flatMap Line.text := by
  have hsubset := Outline.lines_subset_of_mem_allBlocks hblock
  rw [h.lines_eq] at hsubset
  obtain ⟨rest, e, inner, hextent, hbody, hinner⟩ := h.exists_hasExtent hblock
  have hlines : block.body.lines = e.lines := by
    rw [hbody, Extent.lines_around, hinner, Extent.lines]
  have hclause : ∀ line ∈ block.header :: e.clause, 0 < line.opens → '\x7b' ∈ line.text := by
    intro line hline
    refine hbraces line (hsubset ?_)
    rw [hlines]
    exact ((List.sublist_append_left e.clause _).cons_cons block.header).subset hline
  -- The declaration ends before the body, so that it makes no difference how that is read.
  have hall := hextent.declaration_around (Outline.lines_ofLines e.inner) hclause
  rw [Extent.around_ofLines, ← hextent.declaration_around hinner hclause, ← hbody, ← hlines] at hall
  rw [Block.declaration, ← hall, declaration_ofLines, Block.cutLines]

end

/-! ### Lines as one -/

theorem tokenize_blanks_append {blanks : List Char} (h : ∀ c ∈ blanks, isBlank c = true)
    (s : List Char) : tokenize (blanks ++ s) = tokenize s := by
  induction blanks with
  | nil => rfl
  | cons c rest ih =>
    obtain ⟨hc, hrest⟩ := List.forall_mem_cons.1 h
    rw [List.cons_append, tokenize, if_pos hc, ih hrest]

/-- Where nothing is open, any blanks are as good as a space. -/
theorem tokenize_append_blanks {a blanks : List Char} (h : endsOutside (a ++ [' ']) = true)
    (hne : blanks ≠ []) (hblanks : ∀ c ∈ blanks, isBlank c = true) (s : List Char) :
    tokenize (a ++ (blanks ++ s)) = tokenize (a ++ ' ' :: s) := by
  obtain ⟨b, more, rfl⟩ := List.exists_cons_of_ne_nil hne
  obtain ⟨hb, hmore⟩ := List.forall_mem_cons.1 hblanks
  rw [List.cons_append, tokenize_append_of_endsOutside hb (more ++ s) h,
    tokenize_append_of_endsOutside isBlank_space s h, tokenize_blanks_append hmore]

/-- A line with its line feed has blanks at its end. -/
theorem exists_blanks_of_getLast? {s : List Char} (h : s.getLast? = some '\n') :
    ∃ blanks, s = trimEnd s ++ blanks ∧ blanks ≠ [] ∧ ∀ c ∈ blanks, isBlank c = true := by
  obtain ⟨start, rfl⟩ := List.getLast?_eq_some_iff.1 h
  have htrim : trimEnd (start ++ ['\n']) = trimEnd start := by simp [trimEnd, isBlank_feed]
  obtain ⟨blanks, hblanks, hall⟩ := exists_trimEnd_append start
  refine ⟨blanks ++ ['\n'], ?_, by simp, ?_⟩
  · rw [htrim, ← List.append_assoc, hblanks]
  · simpa [or_imp, forall_and, isBlank_feed] using hall

/-- Lines with nothing open between them have the tokens that they have as one. -/
theorem tokenize_onOneLine {lines : List Line}
    (hended : lines.Pairwise fun line _ => line.text.getLast? = some '\n')
    (hwhole : ∀ line ∈ lines.dropLast, line.IsWhole) :
    tokenize (onOneLine lines) = tokenize (lines.flatMap Line.text) := by
  induction lines with
  | nil => rfl
  | cons line rest ih =>
    cases rest with
    | nil => rw [onOneLine, List.flatMap_singleton]
    | cons next rest =>
      rw [List.dropLast_cons_cons, List.forall_mem_cons] at hwhole
      obtain ⟨hline, hrest⟩ := List.pairwise_cons.1 hended
      obtain ⟨blanks, htext, hne, hblanks⟩ := exists_blanks_of_getLast? (hline next (by simp))
      have hmore := ih hrest hwhole.2
      calc tokenize (onOneLine (line :: next :: rest))
        _ = tokenize (trimEnd line.text ++ [' ']) ++ tokenize (onOneLine (next :: rest)) := by
          rw [onOneLine, tokenize_append_of_endsOutside isBlank_space _ hwhole.1,
            tokenize_trimStart]
        _ = tokenize (trimEnd line.text ++ ' ' :: (next :: rest).flatMap Line.text) := by
          rw [hmore, ← tokenize_append_of_endsOutside isBlank_space _ hwhole.1]
        _ = tokenize (line.text ++ (next :: rest).flatMap Line.text) := by
          rw [← tokenize_append_blanks hwhole.1 hne hblanks, ← List.append_assoc, ← htext]

/-- The text of a declaration is that of its first lines, up to the first brace of any kind. It is
that of all its lines exactly where it is plainly cut, and what an outline says of a method is what
the text states. A method that is plainly cut and has nothing open between its lines states the
same on one line. -/
theorem ofText_declarations {text : List Char} {outline : Outline} {block : Block}
    (h : Outline.ofText text = .ok outline) (hblock : block ∈ outline.allBlocks) :
    (block.cutLines <+: block.declaredLines ∧
        block.declaration = block.cutLines.flatMap Line.text) ∧
      (block.declaration = block.declaredLines.flatMap Line.text ↔ block.PlainlyCut) ∧
      block.method =
        (if block.kind = .method then MethodHeader.ofDeclaration? block.declaration else none) ∧
      (block.PlainlyCut → (∀ line ∈ block.declaredLines.dropLast, line.IsWhole) →
        block.kind = .method →
          block.method = MethodHeader.ofDeclaration? (onOneLine block.declaredLines)) := by
  obtain ⟨lines, hlines, hreads⟩ := ofText_eq_ok_iff.1 h
  have hbraces : ∀ line ∈ lines, 0 < line.opens → '\x7b' ∈ line.text :=
    fun line hline => brace_mem_of_mem_logicalLines hlines hline
  have hsublist := Outline.lines_sublist_of_mem_allBlocks hblock
  rw [hreads.lines_eq] at hsublist
  have hdeclared : block.declaredLines.Sublist lines := by
    rw [Block.declaredLines]
    split
    · exact (List.nil_sublist _).cons_cons _ |>.trans hsublist
    · exact (clauseLines_sublist _).cons_cons _ |>.trans hsublist
  have hcut := hreads.declaration_eq hbraces hblock
  have hmine := fun line hline => hbraces line (hsublist.subset hline)
  have hfront : block.cutLines <+: block.declaredLines := Block.cutLines_prefix hmine
  have htexts : ∀ line ∈ block.declaredLines, line.text ≠ [] := by
    intro line hline
    exact (laidOut_logicalLines hlines).1.text_ne_nil line (hdeclared.subset hline)
  have hall : block.declaration = block.declaredLines.flatMap Line.text ↔ block.PlainlyCut := by
    rw [hcut, flatMap_text_eq_iff hfront htexts, Block.cutLines_eq_iff hmine]
  obtain ⟨-, -, -, -, -, -, hmethod⟩ := hreads.exists_block hblock
  refine ⟨⟨hfront, hcut⟩, hall, hmethod, fun hplain hwhole hkind => ?_⟩
  -- Lines of the declaration have others of the text behind them, but for its very last line.
  have hended := (ended_logicalLines hlines).sublist hdeclared
  rw [hmethod, if_pos hkind, hall.2 hplain, MethodHeader.ofDeclaration?,
    MethodHeader.ofDeclaration?, tokenize_onOneLine hended hwhole]

/-- A method whose keyword, return type and name stand on lines of their own. -/
def wrappedListing : List Char :=
  (".class C\n\x7b\n  .method public static\n    void\n    'Find First'(int32)\n  \x7b\n" ++
    "  \x7d\n\x7d\n").toList

theorem ofText_declarations_wrappedListing :
    ∃ outline block, Outline.ofText wrappedListing = .ok outline ∧ block ∈ outline.allBlocks ∧
      block.declaredLines.length = 3 ∧
      block.declaration = block.declaredLines.flatMap Line.text ∧
      onOneLine block.declaredLines =
        "  .method public static void 'Find First'(int32)\n".toList ∧
      block.method = MethodHeader.ofDeclaration? (onOneLine block.declaredLines) ∧
      block.method.map (·.name) = some "Find First" := by
  have hfacts : (Outline.ofText wrappedListing).map (fun outline =>
      outline.methods.head?.map fun block =>
        decide (block.kind = .method ∧ block.PlainlyCut ∧
          (∀ line ∈ block.declaredLines.dropLast, line.IsWhole) ∧
          block.declaredLines.length = 3 ∧ block.method.map (·.name) = some "Find First" ∧
          onOneLine block.declaredLines =
            "  .method public static void 'Find First'(int32)\n".toList)) =
      .ok (some true) := by
    decide +kernel
  obtain ⟨outline, houtline, hmethods⟩ := exists_ok_of_map_eq_ok hfacts
  obtain ⟨block, hfirst, hblock⟩ := Option.map_eq_some_iff.1 hmethods
  obtain ⟨hkind, hplain, hwhole, hlength, hname, hone⟩ := of_decide_eq_true hblock
  have hmem : block ∈ outline.allBlocks := List.mem_of_mem_filter (List.mem_of_head? hfirst)
  obtain ⟨-, hall, -, hmethod⟩ := ofText_declarations houtline hmem
  exact ⟨outline, block, houtline, hmem, hlength, hall.2 hplain, hone, hmethod hplain hwhole hkind,
    hname⟩

/-- A method whose return type has a quoted name with a brace in it. -/
def quotedListing : List Char :=
  (".class C\n\x7b\n  .method public class 'T\x7b0\x7d'\n    M()\n  \x7b\n  \x7d\n" ++
    "\x7d\n").toList

/-- A brace in a quoted name cuts a declaration off, so that the method is not recognised: on one
line it would be. -/
theorem exists_declaration_cut :
    ∃ outline block, Outline.ofText quotedListing = .ok outline ∧ block ∈ outline.allBlocks ∧
      block.kind = .method ∧ (∀ line ∈ block.declaredLines, line.IsWhole) ∧
      block.declaration ≠ block.declaredLines.flatMap Line.text ∧ block.method = none ∧
      (MethodHeader.ofDeclaration? (onOneLine block.declaredLines)).map (·.name) = some "M" := by
  have hfacts : (Outline.ofText quotedListing).map (fun outline =>
      outline.methods.head?.map fun block =>
        decide (block.kind = .method ∧ (∀ line ∈ block.declaredLines, line.IsWhole) ∧
          block.declaration ≠ block.declaredLines.flatMap Line.text ∧ block.method = none ∧
          (MethodHeader.ofDeclaration? (onOneLine block.declaredLines)).map (·.name) =
            some "M")) =
      .ok (some true) := by
    decide +kernel
  obtain ⟨outline, houtline, hmethods⟩ := exists_ok_of_map_eq_ok hfacts
  obtain ⟨block, hfirst, hblock⟩ := Option.map_eq_some_iff.1 hmethods
  exact ⟨outline, block, houtline, List.mem_of_mem_filter (List.mem_of_head? hfirst),
    of_decide_eq_true hblock⟩

end PluginBuild.Listing
