import PluginBuild.Proofs.Listing.Change
import PluginBuild.Proofs.Listing.Comments
/-!
# Comments that stand apart

Not every part of the reader knows comments, so that some of them are read as what they are not.
A comment that fills its line, or that stands behind an instruction or a brace, means nothing
outside of declarations: without such comments a listing has the outline that it had
(`ofText_blankComments`).
-/

namespace PluginBuild.Listing

/-- How lines begin of which more than the first word is read. A slash may begin a comment. -/
def readPieces : List String := ["/", ".custom", ".export", ".override", ".ver"]

/-- Of the text of a line no more than the first word is read. -/
def Unread (s : List Char) : Prop :=
  tokenize s = [] ∨ ∀ piece ∈ readPieces, ¬ piece.toList <+: Text.trimStart s

/-- The comments of a line, whose text is `blanked` without them, stand apart from what is read of
it. -/
inductive Apart (text blanked : List Char) : Prop
  /-- There are none. -/
  | none (h : blanked = text)
  /-- There is nothing besides. -/
  | throughout (hblank : Text.trimStart blanked = [])
      (htext : tokenize text = [] ∨
        (Text.trimStart text).head? ∉ [some '/', some '.', some '\x7b'])
  /-- They stand behind the first word, and no more than that is read. -/
  | behind (hword : Text.firstWord blanked = Text.firstWord text)
      (hunread : ∀ piece ∈ readPieces, ¬ piece.toList <+: Text.firstWord text)

theorem apart_iff {text blanked : List Char} :
    Apart text blanked ↔ blanked = text ∨
      (Text.trimStart blanked = [] ∧
        (tokenize text = [] ∨
          (Text.trimStart text).head? ∉ [some '/', some '.', some '\x7b'])) ∨
      Text.firstWord blanked = Text.firstWord text ∧
        ∀ piece ∈ readPieces, ¬ piece.toList <+: Text.firstWord text := by
  constructor
  · rintro (h | ⟨hblank, htext⟩ | ⟨hword, hunread⟩)
    · exact .inl h
    · exact .inr (.inl ⟨hblank, htext⟩)
    · exact .inr (.inr ⟨hword, hunread⟩)
  · rintro (h | ⟨hblank, htext⟩ | ⟨hword, hunread⟩)
    · exact .none h
    · exact .throughout hblank htext
    · exact .behind hword hunread

instance decidableApart (text blanked : List Char) : Decidable (Apart text blanked) :=
  decidable_of_iff _ apart_iff.symm

/-- Leading blanks are no part of a token. -/
theorem tokenize_trimStart (s : List Char) : tokenize (Text.trimStart s) = tokenize s := by
  induction s with
  | nil => rfl
  | cons c rest ih =>
    rw [Text.trimStart, List.dropWhile_cons]
    split
    · next hc =>
      rw [tokenize, if_pos hc]
      exact ih
    · rfl

/-- A text that begins with no comment begins with its first token. -/
theorem tokenize_cons {c : Char} (rest : List Char) (hblank : Text.isBlank c = false)
    (hslash : c ≠ '/') :
    ∃ token more, tokenize (c :: rest) = token :: more ∧ token.word.toList <+: c :: rest := by
  rw [tokenize]
  simp only [hblank, hslash, false_and, if_false, Bool.false_eq_true]
  refine ⟨_, _, rfl, ?_⟩
  rw [String.toList_ofList]
  exact ⟨_, takeWord_append (c :: rest)⟩

/-- A text without tokens is blank or begins with a comment. -/
theorem head?_of_tokenize_eq_nil {s : List Char} (h : tokenize s = []) :
    ∀ c ∈ (Text.trimStart s).head?, c = '/' := by
  intro c hc
  obtain ⟨rest, hrest⟩ := List.head?_eq_some_iff.1 hc
  by_contra hslash
  obtain ⟨token, more, htokens, -⟩ := tokenize_cons rest (Text.isBlank_of_trimStart hrest) hslash
  rw [← hrest, tokenize_trimStart, h] at htokens
  cases htokens

namespace Unread

variable {s : List Char}

theorem of_trimStart_eq_nil (h : Text.trimStart s = []) : Unread s := by
  refine .inl ?_
  rw [← tokenize_trimStart, h, tokenize]

/-- The text does not begin with a piece of a directive. -/
theorem not_piece (h : Unread s) (piece : String) (hpiece : piece ∈ readPieces)
    (hdot : piece.toList.head? = some '.') : ¬ piece.toList <+: Text.trimStart s := by
  rcases h with h | h
  · rintro ⟨more, hmore⟩
    obtain ⟨rest, hrest⟩ := List.head?_eq_some_iff.1 hdot
    have hhead := head?_of_tokenize_eq_nil h '.' (by rw [← hmore, hrest]; rfl)
    cases hhead
  · exact h piece hpiece

/-- A reader that wants a piece of a directive at the start of the trimmed text finds none. -/
theorem afterPiece?_trim (h : Unread s) (piece : String) (hpiece : piece ∈ readPieces)
    (hdot : piece.toList.head? = some '.') :
    Text.afterPiece? piece.toList (Text.trim s) = none := by
  refine Text.afterPiece?_eq_none ?_
  rintro ⟨more, hmore⟩
  obtain ⟨blanks, hblanks⟩ := Text.exists_trim_append s
  rw [← hmore, List.append_assoc] at hblanks
  exact h.not_piece piece hpiece hdot ⟨_, hblanks⟩

/-- The first token is not that of an attribute. -/
theorem word_ne (h : Unread s) : ∀ token ∈ (tokenize s).head?, token.word ≠ ".custom" := by
  intro token htoken hword
  rcases h with h | h
  · rw [h] at htoken
    cases htoken
  · cases hs : Text.trimStart s with
    | nil =>
      rw [← tokenize_trimStart, hs, tokenize] at htoken
      cases htoken
    | cons c rest =>
      have hslash : c ≠ '/' := by
        rintro rfl
        exact h "/" (by simp [readPieces]) (by simp [hs])
      obtain ⟨first, more, htokens, hfirst⟩ :=
        tokenize_cons rest (Text.isBlank_of_trimStart hs) hslash
      rw [← tokenize_trimStart, hs, htokens] at htoken
      cases htoken
      exact h ".custom" (by simp [readPieces]) (by rwa [hs, ← hword])

theorem ofLine?_eq_none (h : Unread s) : ExportMarker.ofLine? s = none := by
  have hpiece := h.not_piece ".export" (by simp [readPieces]) rfl
  rw [ExportMarker.ofLine?, Text.afterPiece?_eq_none hpiece]
  rfl

end Unread

/-- A piece without blanks that begins a text begins its first word. -/
theorem piece_firstWord {piece s : List Char} (hpiece : ∀ c ∈ piece, Text.isBlank c = false)
    (h : piece <+: Text.trimStart s) : piece <+: Text.firstWord s := by
  obtain ⟨rest, hrest⟩ := h
  rw [Text.firstWord, ← hrest, List.takeWhile_append_of_pos (by simpa using hpiece)]
  exact List.prefix_append _ _

theorem isBlank_of_mem_readPieces :
    ∀ piece ∈ readPieces, ∀ c ∈ piece.toList, Text.isBlank c = false := by
  have hall : readPieces.all (fun piece => piece.toList.all (!Text.isBlank ·)) = true := by
    decide +kernel
  simpa using hall

theorem head?_of_mem_readPieces :
    ∀ piece ∈ readPieces, piece.toList.head? = some '/' ∨ piece.toList.head? = some '.' := by
  decide +kernel

theorem bodyRegion_eq_none {kind : BlockKind} {keyword : String}
    (hkind : kind ≠ .type) (h : keyword.toList.head? ≠ some '.') :
    bodyRegion? kind keyword = none := by
  unfold bodyRegion?
  split
  · exact absurd rfl hkind
  · refine if_neg ?_
    rintro rfl
    exact h rfl
  · rfl

namespace Apart

variable {text blanked : List Char}

/-- Where there are comments, not more than the first word is read, before and after. -/
theorem unread (h : Apart text blanked) : blanked = text ∨ Unread text ∧ Unread blanked := by
  cases h with
  | none h => exact .inl h
  | throughout hblank htext =>
    refine .inr ⟨htext.imp_right fun hhead piece hpiece hstarts => ?_,
      .of_trimStart_eq_nil hblank⟩
    obtain ⟨more, hmore⟩ := hstarts
    rw [← hmore, List.head?_append] at hhead
    rcases head?_of_mem_readPieces piece hpiece with hc | hc
    · exact hhead (by simp [hc])
    · exact hhead (by simp [hc])
  | behind hword hunread =>
    refine .inr ⟨.inr fun piece hpiece hstarts => ?_, .inr fun piece hpiece hstarts => ?_⟩
    · exact hunread piece hpiece (piece_firstWord (isBlank_of_mem_readPieces piece hpiece) hstarts)
    · exact hunread piece hpiece
        (hword ▸ piece_firstWord (isBlank_of_mem_readPieces piece hpiece) hstarts)

/-- The first word stays, or is that of no directive and goes. -/
theorem firstWord_cases (h : Apart text blanked) :
    Text.firstWord blanked = Text.firstWord text ∨
      Text.firstWord blanked = [] ∧ (Text.firstWord text).head? ≠ some '.' := by
  cases h with
  | none h => exact .inl (h ▸ rfl)
  | throughout hblank htext =>
    refine .inr ⟨by rw [Text.firstWord, hblank]; rfl, fun hdot => ?_⟩
    rw [Text.head?_firstWord] at hdot
    rcases htext with htokens | hhead
    · cases head?_of_tokenize_eq_nil htokens '.' hdot
    · exact hhead (by simp [hdot])
  | behind hword _ => exact .inl hword

/-- A line does not come to go on with a declaration, and goes on as before if it has its first
word still. -/
theorem goesOn {line other : Line} (h : Apart line.text other.text) :
    other.goesOn = line.goesOn ∨ other.goesOn = false ∧ Text.trimStart other.text = [] := by
  cases h with
  | none h => exact .inl (by rw [Line.goesOn, Line.goesOn, Line.trimmed, Line.trimmed, h])
  | throughout hblank _ =>
    refine .inr ⟨?_, hblank⟩
    rw [Line.goesOn, Line.trimmed, Text.trim, hblank]
    rfl
  | behind hword hunread =>
    have hslash : (Text.firstWord line.text).head? ≠ some '/' := by
      intro hslash
      obtain ⟨more, hmore⟩ := List.head?_eq_some_iff.1 hslash
      exact hunread "/" (by simp [readPieces]) (by simp [hmore])
    have hhead : other.trimmed.head? = line.trimmed.head? := by
      rw [Line.trimmed, Line.trimmed, Text.head?_trim, Text.head?_trim, ← Text.head?_firstWord,
        ← Text.head?_firstWord, hword]
    rw [Text.head?_firstWord, ← Text.head?_trim, ← Line.trimmed] at hslash
    left
    rw [Line.goesOn, Line.goesOn]
    cases hline : line.trimmed with
    | nil =>
      rw [hline, List.head?_nil, List.head?_eq_none_iff] at hhead
      rw [hhead]
    | cons c rest =>
      rw [hline] at hhead hslash
      obtain ⟨rest', hother⟩ := List.head?_eq_some_iff.1 hhead
      have hc : ('/' == c) = false := beq_false_of_ne fun h => hslash (by rw [h]; rfl)
      simp [hother, List.isPrefixOf, hc]

/-- A line that begins with a brace still does. -/
theorem head?_eq (h : Apart text blanked) (hbrace : (Text.trimStart text).head? = some '\x7b') :
    (Text.trimStart blanked).head? = some '\x7b' := by
  rcases h with h | ⟨-, htext⟩ | ⟨hword, -⟩
  · rwa [h]
  · rcases htext with htokens | hhead
    · cases head?_of_tokenize_eq_nil htokens _ hbrace
    · exact absurd (by simp [hbrace]) hhead
  · rwa [← Text.head?_firstWord, hword, Text.head?_firstWord]

end Apart

/-- A change of lines that makes comments blank which stand apart keeps the blocks. -/
theorem keepsBlocks_of_apart {f : Line → Line} (hf : ∀ line, Apart line.text (f line).text)
    (hopens : ∀ line, (f line).opens = line.opens)
    (hcloses : ∀ line, (f line).closes = line.closes) : KeepsBlocks f where
  opens_eq := hopens
  closes_eq := hcloses
  opens?_eq region line := by
    rcases (hf line).firstWord_cases with hword | ⟨hblank, hdot⟩
    · rw [Line.keyword, Line.keyword, hword]
    · rw [Region.opens?_eq_none (by simp [Line.keyword, hblank]),
        Region.opens?_eq_none (by simpa [Line.keyword] using hdot)]
  bodyRegion_eq kind line := by
    rcases (hf line).firstWord_cases with hword | ⟨hblank, hdot⟩
    · rw [Line.keyword, Line.keyword, hword]
    · by_cases hkind : kind = .type
      · subst hkind
        rfl
      · rw [bodyRegion_eq_none hkind (by simp [Line.keyword, hblank]),
          bodyRegion_eq_none hkind (by simpa [Line.keyword] using hdot)]
  goesOn line hgoesOn := by
    rcases (hf line).goesOn with heq | ⟨hfalse, -⟩
    · rw [← heq, hgoesOn]
    · rw [hfalse] at hgoesOn
      cases hgoesOn

/-! ### Declarations -/

/-- No comment stands in the declaration of a block: neither its header nor a line that goes on
with it has one, but for a line that begins with the brace of the body. -/
structure Block.Plain (text : List Char) (block : Block) : Prop where
  header_blanked : block.header.blanked text = block.header.text
  clause_blanked : ∀ line ∈ block.clause, line.blanked text = line.text ∨
    (Text.trimStart line.text).head? = some '\x7b'

theorem Block.plain_iff {text : List Char} {block : Block} :
    block.Plain text ↔ block.header.blanked text = block.header.text ∧
      ∀ line ∈ block.clause, line.blanked text = line.text ∨
        (Text.trimStart line.text).head? = some '\x7b' :=
  ⟨fun h => ⟨h.header_blanked, h.clause_blanked⟩, fun h => ⟨h.1, h.2⟩⟩

instance Block.decidablePlain (text : List Char) (block : Block) : Decidable (block.Plain text) :=
  decidable_of_iff _ plain_iff.symm

/-- A declaration is that of its lines up to one that begins with a brace. -/
theorem clauseText_map {f : Line → Line} {clause : List Line}
    (h : ∀ line ∈ clause, (f line).text = line.text ∨
      (Text.trimStart line.text).head? = some '\x7b' ∧
        (Text.trimStart (f line).text).head? = some '\x7b') :
    (Outline.ofLines (clause.map f)).clauseText = (Outline.ofLines clause).clauseText := by
  induction clause with
  | nil => rfl
  | cons line rest ih =>
    obtain ⟨hline, hrest⟩ := List.forall_mem_cons.1 h
    rw [List.map_cons, Outline.ofLines, Outline.ofLines, Outline.clauseText, Outline.clauseText,
      Line.trimmed, Line.trimmed, Text.head?_trim, Text.head?_trim]
    rcases hline with htext | ⟨hbrace, hbrace'⟩
    · rw [htext, ih hrest]
    · rw [if_pos hbrace, if_pos hbrace']

/-- A block without comments in its declaration keeps the declaration where comments are made
blank that stand apart. -/
theorem Block.Plain.keepsDeclaration {text : List Char} {block : Block} (h : block.Plain text)
    {f : Line → Line} (hf : KeepsBlocks f) (hapart : ∀ line, Apart line.text (f line).text)
    (hblanked : ∀ line ∈ block.header :: block.body.lines, (f line).text = line.blanked text)
    (hbraces : ∀ line ∈ block.header :: block.body.lines, 0 < line.opens → '\x7b' ∈ line.text)
    (hbraces' : ∀ line ∈ block.header :: block.body.lines,
      0 < (f line).opens → '\x7b' ∈ (f line).text)
    {rest : List Line} {e : Extent} {inner : Outline} (hextent : HasExtent block.header rest e)
    (hbody : block.body = e.around inner) (hinner : inner.lines = e.inner) :
    block.KeepsDeclaration f := by
  have hheader : (f block.header).text = block.header.text := by
    rw [hblanked block.header (by simp), h.header_blanked]
  have hclauseEq : block.clause = e.clause := by rw [Block.clause, hbody, hextent.clause_eq hinner]
  have hsubset : block.header :: block.clause ⊆ block.header :: block.body.lines := by
    rw [hclauseEq, hbody, Extent.lines_around]
    exact List.cons_subset_cons _ (List.subset_append_left _ _)
  have hclause : ∀ line ∈ block.clause, (f line).text = line.text ∨
      (Text.trimStart line.text).head? = some '\x7b' ∧
        (Text.trimStart (f line).text).head? = some '\x7b' := by
    intro line hline
    rcases h.clause_blanked line hline with hsame | hbrace
    · rw [hblanked line (hsubset (List.mem_cons_of_mem _ hline))]
      exact .inl hsame
    · exact .inr ⟨hbrace, (hapart line).head?_eq hbrace⟩
  have hgoesOn : ∀ line ∈ block.clause, (f line).goesOn = line.goesOn := by
    intro line hline
    rcases (hapart line).goesOn with heq | ⟨-, hblank⟩
    · exact heq
    · rcases hclause line hline with hsame | ⟨-, hbrace⟩
      · rw [Line.goesOn, Line.goesOn, Line.trimmed, Line.trimmed, hsame]
      · rw [hblank] at hbrace
        cases hbrace
  refine ⟨hheader, ?_, hgoesOn⟩
  rw [hclauseEq] at hsubset hclause hgoesOn
  rw [Block.declaration, Block.declaration, Block.mapLines, hbody, Extent.mapLines_around,
    (hf.hasExtent hgoesOn hextent).declaration_around (by rw [Outline.lines_mapLines, hinner]; rfl)
      ?_,
    hextent.declaration_around hinner fun line hline => hbraces line (hsubset hline),
    Outline.declaration, Outline.declaration, hheader, Extent.mapLines, clauseText_map hclause]
  intro line hline
  obtain ⟨other, hother, rfl⟩ : ∃ other ∈ block.header :: e.clause, f other = line :=
    List.mem_map.1 hline
  exact hbraces' other (hsubset hother)

/-- Without comments that stand apart, a listing has the outline that it had, and declarations are
what they were. -/
theorem ofText_blankComments {text : List Char} {outline : Outline}
    (h : Outline.ofText text = .ok outline)
    (hblocks : ∀ block ∈ outline.allBlocks, block.Plain text)
    (hlines : ∀ line ∈ outline.lines, Apart line.text (line.blanked text)) :
    ∃ f, Outline.ofText (blankComments text) = .ok (outline.mapLines f) ∧
      (∀ line, Apart line.text (f line).text) ∧
      ∀ block ∈ outline.allBlocks, block.KeepsDeclaration f := by
  obtain ⟨lines, hread, hreads⟩ := ofText_eq_ok_iff.1 h
  obtain ⟨lines', hread', hleft⟩ := logicalLines_blankComments hread
  obtain ⟨f, rfl, hid⟩ :=
    exists_map_eq (laidOut_logicalLines hread).1.nodup hleft.length_eq.symm
  rw [hreads.lines_eq] at hlines
  have hleft : ∀ line ∈ lines, line.LeftOf text (f line) := by
    rwa [List.forall₂_map_right_iff, List.forall₂_same] at hleft
  have hapart (line : Line) : Apart line.text (f line).text := by
    by_cases hline : line ∈ lines
    · rw [(hleft line hline).text_eq]
      exact hlines line hline
    · exact .none (by rw [hid line hline])
  have hkeeps : KeepsBlocks f := by
    refine keepsBlocks_of_apart hapart (fun line => ?_) fun line => ?_
    · by_cases hline : line ∈ lines
      · exact (hleft line hline).opens_eq
      · rw [hid line hline]
    · by_cases hline : line ∈ lines
      · exact (hleft line hline).closes_eq
      · rw [hid line hline]
  have hdeclarations : ∀ block ∈ outline.allBlocks, block.KeepsDeclaration f := by
    intro block hblock
    obtain ⟨rest, e, inner, hextent, hbody, hinner⟩ := hreads.exists_hasExtent hblock
    have hsubset := Outline.lines_subset_of_mem_allBlocks hblock
    rw [hreads.lines_eq] at hsubset
    refine (hblocks block hblock).keepsDeclaration hkeeps hapart
      (fun line hline => (hleft line (hsubset hline)).text_eq)
      (fun line hline => brace_mem_of_mem_logicalLines hread (hsubset hline))
      (fun line hline => brace_mem_of_mem_logicalLines hread'
        (List.mem_map_of_mem (hsubset hline))) hextent hbody hinner
  exact ⟨f, ofText_eq_ok_iff.2 ⟨_, hread', hkeeps.reads hreads hdeclarations⟩, hapart,
    hdeclarations⟩

end PluginBuild.Listing
