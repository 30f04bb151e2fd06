import PluginBuild.Listing.Outline.OfText
import PluginBuild.Proofs.Text.Blank
/-!
# How far a block goes

The extent of a block, said by the running totals of its braces: `Opens` says where the body
starts, `StaysOpen` that it has not ended, and `HasExtent` which lines a block has. The reader
finds an extent where there is one (`extent_eq_ok_iff`).
-/

namespace PluginBuild.Listing

theorem netOf_append (a b : List Line) : netOf (a ++ b) = netOf a + netOf b := by
  induction a with
  | nil => simp [netOf]
  | cons line rest ih =>
    rw [List.cons_append, netOf, netOf, ih]
    omega

/-- A line without an opening brace opens no more braces than it closes. -/
theorem Line.net_nonpos {line : Line} (h : line.opens = 0) : line.net ≤ 0 := by
  rw [Line.net, h]
  omega

/-- Lines without opening braces open no more braces than they close. -/
theorem netOf_nonpos {lines : List Line} (h : ∀ line ∈ lines, line.opens = 0) :
    netOf lines ≤ 0 := by
  induction lines with
  | nil => exact Int.le_refl _
  | cons line rest ih =>
    have hline := Line.net_nonpos (h line (by simp))
    have hrest := ih fun other hother => h other (by simp [hother])
    rw [netOf]
    omega

/-- Inside `depth` braces, a brace is open before the lines and after each of them. -/
def StaysOpen (depth : Int) : List Line → Prop
  | [] => 0 < depth
  | line :: rest => 0 < depth ∧ StaysOpen (depth + line.net) rest

instance decidableStaysOpen : (depth : Int) → (lines : List Line) →
    Decidable (StaysOpen depth lines)
  | depth, [] => inferInstanceAs (Decidable (0 < depth))
  | depth, line :: rest =>
    have := decidableStaysOpen (depth + line.net) rest
    inferInstanceAs (Decidable (0 < depth ∧ StaysOpen (depth + line.net) rest))

theorem StaysOpen.depth_pos {depth : Int} {lines : List Line} (h : StaysOpen depth lines) :
    0 < depth := by
  cases lines with
  | nil => exact h
  | cons line rest => exact h.1

theorem staysOpen_append {depth : Int} {a b : List Line} :
    StaysOpen depth (a ++ b) ↔ StaysOpen depth a ∧ StaysOpen (depth + netOf a) b := by
  induction a generalizing depth with
  | nil =>
    rw [List.nil_append, netOf, Int.add_zero]
    exact ⟨fun h => ⟨h.depth_pos, h⟩, fun h => h.2⟩
  | cons line rest ih =>
    rw [List.cons_append, StaysOpen, StaysOpen, ih, netOf, and_assoc, Int.add_assoc]

theorem StaysOpen.pos {depth : Int} {lines : List Line} (h : StaysOpen depth lines) :
    0 < depth + netOf lines := by
  have hend : StaysOpen depth (lines ++ []) := by rwa [List.append_nil]
  exact (staysOpen_append.1 hend).2

/-- Where the lines end inside the body, they stay open. -/
theorem staysOpen_of_takeBody_eq_none {depth : Int} {lines : List Line} (hdepth : 0 < depth)
    (h : takeBody? depth lines = none) : StaysOpen depth lines := by
  induction lines generalizing depth with
  | nil => exact hdepth
  | cons line rest ih =>
    rw [takeBody?] at h
    split at h
    · cases h
    · next hopen => exact ⟨hdepth, ih (by omega) (Option.map_eq_none_iff.1 h)⟩

/-- A body goes on as long as a brace is open. -/
theorem takeBody_eq_some_iff {depth after : Int} {lines : List Line} {body : Body}
    (hdepth : 0 < depth) :
    takeBody? depth lines = some (body, after) ↔
      lines = body.inner ++ body.close :: body.after ∧ StaysOpen depth body.inner ∧
        after = depth + netOf body.inner + body.close.net ∧ after ≤ 0 := by
  induction lines generalizing depth body with
  | nil => simp [takeBody?]
  | cons line rest ih =>
    rw [takeBody?]
    split
    · next hclosed =>
      -- The line closes the body, and so none is in it.
      constructor
      · intro h
        cases h
        exact ⟨rfl, hdepth, by simp [netOf], hclosed⟩
      · rintro ⟨hlines, hstays, rfl, hle⟩
        obtain ⟨inner, close, behind⟩ := body
        cases inner with
        | nil =>
          obtain ⟨rfl, rfl⟩ := List.cons.inj hlines
          simp [netOf]
        | cons first more =>
          obtain ⟨rfl, -⟩ := List.cons.inj hlines
          have hpos := hstays.2.depth_pos
          omega
    · next hopen =>
      -- The line is in the body, which stays open behind it.
      have hpos : 0 < depth + line.net := by omega
      rw [Option.map_eq_some_iff]
      constructor
      · rintro ⟨⟨more, total⟩, hmore, heq⟩
        obtain ⟨rfl, rfl⟩ := Prod.mk.inj heq
        obtain ⟨rfl, hstays, htotal, hle⟩ := (ih hpos).1 hmore
        refine ⟨rfl, ⟨hdepth, hstays⟩, ?_, hle⟩
        dsimp only at htotal ⊢
        rw [htotal, netOf]
        omega
      · rintro ⟨hlines, hstays, htotal, hle⟩
        obtain ⟨inner, close, behind⟩ := body
        cases inner with
        | nil =>
          obtain ⟨rfl, rfl⟩ := List.cons.inj hlines
          simp only [netOf] at htotal
          omega
        | cons first more =>
          obtain ⟨rfl, rfl⟩ := List.cons.inj hlines
          refine ⟨(⟨more, close, behind⟩, after), (ih hpos).2 ⟨rfl, hstays.2, ?_, hle⟩, rfl⟩
          dsimp only at htotal ⊢
          rw [htotal, netOf]
          omega

/-- A directive does not go on with the declaration before it. -/
theorem Line.goesOn_of_dot {line : Line} (h : (Text.trimStart line.text).head? = some '.') :
    line.goesOn = false := by
  rw [← Text.head?_trim] at h
  simp [Line.goesOn, Line.trimmed, h]

theorem Line.goesOn_of_keyword {line : Line} (name : List Char)
    (h : line.keyword = String.ofList ('.' :: name)) : line.goesOn = false := by
  refine Line.goesOn_of_dot ?_
  rw [← Text.head?_firstWord, String.ofList_inj.1 h]
  rfl

/-- Only directives begin blocks. -/
theorem Region.opens?_eq_none {region : Region} {keyword : String}
    (h : keyword.toList.head? ≠ some '.') : region.opens? keyword = none := by
  unfold Region.opens?
  split <;> first | rfl | exact absurd rfl h

/-- The header of a block does not go on with the declaration before it. -/
theorem Line.goesOn_of_opens {region : Region} {line : Line}
    (h : (region.opens? line.keyword).isSome = true) : line.goesOn = false := by
  refine Line.goesOn_of_dot ?_
  rw [← Text.head?_firstWord]
  by_cases hdot : (Text.firstWord line.text).head? = some '.'
  · exact hdot
  · rw [Region.opens?_eq_none (by simpa [Line.keyword] using hdot)] at h
    cases h

/-- A marker is a directive. -/
theorem Line.goesOn_of_marker {line : Line} {marker : ExportMarker}
    (h : ExportMarker.ofLine? line.text = some marker) : line.goesOn = false := by
  by_cases hpiece : ".export".toList <+: Text.trimStart line.text
  · obtain ⟨more, hmore⟩ := hpiece
    refine Line.goesOn_of_dot ?_
    rw [← hmore]
    rfl
  · rw [ExportMarker.ofLine?, Text.afterPiece?_eq_none hpiece] at h
    cases h

/-- The header, or else the last of the clauses after it, opens the body: it is the first of them
with an opening brace. -/
inductive Opens (header : Line) : List Line → Line → Prop
  | atHeader (h : 0 < header.opens) : Opens header [] header
  | atClause {clauses : List Line} {opening : Line} (hheader : header.opens = 0)
      (hclauses : ∀ line ∈ clauses, line.goesOn = true ∧ line.opens = 0)
      (hgoesOn : opening.goesOn = true) (hopens : 0 < opening.opens) :
      Opens header (clauses ++ [opening]) opening

/-- A header and its clauses open no body, and the line after them does not go on with them. -/
structure NoBody (header : Line) (clause after : List Line) : Prop where
  header_opens : header.opens = 0
  clause_goesOn : ∀ line ∈ clause, line.goesOn = true ∧ line.opens = 0
  ends : ∀ line ∈ after.head?, line.goesOn = false

/-- The lines after a header are those of its block, as the extent says, and those after it. -/
inductive HasExtent (header : Line) : List Line → Extent → Prop
  /-- A declaration without a body. -/
  | bare {clause after : List Line} (hbody : NoBody header clause after)
      (hnet : netOf (header :: clause) = 0) :
      HasExtent header (clause ++ after) ⟨clause, [], none, false, after⟩
  /-- A body that ends on the line that opens it. -/
  | closed {clause after : List Line} {opening : Line} (hopens : Opens header clause opening)
      (hnet : netOf (header :: clause) = 0) :
      HasExtent header (clause ++ after) ⟨clause, [], none, false, after⟩
  /-- A body that ends on a line of its own. -/
  | enclosed {clause inner after : List Line} {opening close : Line}
      (hopens : Opens header clause opening)
      (hinner : StaysOpen (netOf (header :: clause)) inner)
      (hnet : netOf (header :: clause) + netOf inner + close.net = 0) :
      HasExtent header (clause ++ (inner ++ close :: after))
        ⟨clause, inner, some close, opening.net = 1 && close.net = -1, after⟩

/-- Clauses up to the one that opens the body are taken. -/
theorem takeClause_of_opens {clauses after : List Line} {opening : Line}
    (hclauses : ∀ line ∈ clauses, line.goesOn = true ∧ line.opens = 0)
    (hgoesOn : opening.goesOn = true) (hopens : 0 < opening.opens) :
    takeClause (clauses ++ opening :: after) = (clauses ++ [opening], after) := by
  induction clauses with
  | nil => simp [takeClause, hgoesOn, hopens]
  | cons line rest ih =>
    obtain ⟨hline, hzero⟩ := hclauses line (by simp)
    rw [List.cons_append, takeClause, ih fun other hother => hclauses other (by simp [hother])]
    simp [hline, hzero]

/-- Clauses before a line that does not go on with them are taken. -/
theorem takeClause_of_noBody {clause after : List Line}
    (hclause : ∀ line ∈ clause, line.goesOn = true ∧ line.opens = 0)
    (hends : ∀ line ∈ after.head?, line.goesOn = false) :
    takeClause (clause ++ after) = (clause, after) := by
  induction clause with
  | nil =>
    cases after with
    | nil => rfl
    | cons line rest => simp [takeClause, hends line (by simp)]
  | cons line rest ih =>
    obtain ⟨hline, hzero⟩ := hclause line (by simp)
    rw [List.cons_append, takeClause, ih fun other hother => hclause other (by simp [hother])]
    simp [hline, hzero]

/-- The clauses taken open the body, or there is none. -/
theorem takeClause_cases (lines : List Line) :
    (∃ clauses opening, (takeClause lines).1 = clauses ++ [opening] ∧
      (∀ line ∈ clauses, line.goesOn = true ∧ line.opens = 0) ∧ opening.goesOn = true ∧
      0 < opening.opens) ∨
    ((∀ line ∈ (takeClause lines).1, line.goesOn = true ∧ line.opens = 0) ∧
      ∀ line ∈ (takeClause lines).2.head?, line.goesOn = false) := by
  fun_induction takeClause lines with
  | case1 => exact .inr ⟨by simp, by simp⟩
  | case2 line rest hline => exact .inr ⟨by simp, by simpa using hline⟩
  | case3 line rest hline hopens =>
    exact .inl ⟨[], line, rfl, by simp, by simpa using hline, hopens⟩
  | case4 line rest hline hopens more ih =>
    have hfirst : line.goesOn = true ∧ line.opens = 0 := by simpa using And.intro hline hopens
    rcases ih with ⟨clauses, opening, heq, hclauses, hlast⟩ | ⟨hclause, hends⟩
    · exact .inl ⟨line :: clauses, opening, by simp [more, heq],
        List.forall_mem_cons.2 ⟨hfirst, hclauses⟩, hlast⟩
    · exact .inr ⟨List.forall_mem_cons.2 ⟨hfirst, hclause⟩, hends⟩

/-- The declaration of a block opens its body, or there is none. -/
theorem takeDeclaration_cases (header : Line) (rest : List Line) :
    (∃ opening, Opens header (takeDeclaration header rest).1 opening) ∨
      NoBody header (takeDeclaration header rest).1 (takeDeclaration header rest).2 := by
  unfold takeDeclaration
  split
  · next h => exact .inl ⟨header, .atHeader h⟩
  · next h =>
    have hheader : header.opens = 0 := by omega
    rcases takeClause_cases rest with ⟨clauses, opening, heq, hclauses, hgoesOn, hopens⟩ | hnone
    · exact .inl ⟨opening, heq ▸ .atClause hheader hclauses hgoesOn hopens⟩
    · exact .inr ⟨hheader, hnone.1, hnone.2⟩

namespace Opens

variable {header opening : Line} {clause after : List Line}

/-- A declaration that opens a body is taken up to where it does. -/
theorem takeDeclaration (h : Opens header clause opening) :
    takeDeclaration header (clause ++ after) = (clause, after) := by
  cases h with
  | atHeader h => simp [Listing.takeDeclaration, h]
  | atClause hheader hclauses hgoesOn hopens =>
    rw [Listing.takeDeclaration, if_neg (by omega), List.append_assoc, List.singleton_append]
    exact takeClause_of_opens hclauses hgoesOn hopens

theorem openingLine (h : Opens header clause opening) :
    openingLine? header clause = some opening := by
  cases h with
  | atHeader h => simp [openingLine?, h]
  | atClause hheader hclauses hgoesOn hopens => simp [openingLine?, hheader, hopens]

/-- The clauses of a declaration go on with it. -/
theorem goesOn (h : Opens header clause opening) : ∀ line ∈ clause, line.goesOn = true := by
  cases h with
  | atHeader h => simp
  | atClause hheader hclauses hgoesOn hopens =>
    intro line hline
    rcases List.mem_append.1 hline with hline | hline
    · exact (hclauses line hline).1
    · rwa [List.mem_singleton.1 hline]

end Opens

namespace NoBody

variable {header : Line} {clause after : List Line}

theorem takeDeclaration (h : NoBody header clause after) :
    takeDeclaration header (clause ++ after) = (clause, after) := by
  rw [Listing.takeDeclaration, if_neg (by have := h.header_opens; omega)]
  exact takeClause_of_noBody h.clause_goesOn h.ends

/-- No line is found that opens a body. -/
theorem openingLine (h : NoBody header clause after) : openingLine? header clause = none := by
  rw [openingLine?, if_neg (by have := h.header_opens; omega), Option.filter_eq_none_iff]
  intro line hline
  simp [(h.clause_goesOn line (List.mem_of_getLast? hline)).2]

theorem net_nonpos (h : NoBody header clause after) : netOf (header :: clause) ≤ 0 := by
  refine netOf_nonpos fun line hline => ?_
  rcases List.mem_cons.1 hline with rfl | hline
  · exact h.header_opens
  · exact (h.clause_goesOn line hline).2

end NoBody

/-- An extent that the reader finds is one. -/
theorem hasExtent_of_extent {kind : BlockKind} {header : Line} {rest : List Line} {e : Extent}
    (h : extent kind header rest = .ok e) : HasExtent header rest e := by
  have hrest := takeDeclaration_append header rest
  have hcases := takeDeclaration_cases header rest
  unfold extent extentAfter at h
  generalize (takeDeclaration header rest).1 = clause at h hrest hcases
  generalize (takeDeclaration header rest).2 = after at h hrest hcases
  subst hrest
  dsimp only at h
  split at h
  · cases h
  next hdepth =>
  rcases hcases with ⟨opening, hopens⟩ | hnone
  · rw [hopens.openingLine] at h
    dsimp only at h
    split at h
    · next hzero => cases h; exact .closed hopens hzero
    next hzero =>
    have hpos : 0 < netOf (header :: clause) := by rw [netOf]; omega
    split at h
    · cases h
    next body total hbody =>
    split at h
    · cases h
    next htotal =>
    obtain ⟨rfl, hinner, hsum, hle⟩ := (takeBody_eq_some_iff hpos).1 hbody
    cases h
    exact .enclosed hopens hinner (by omega)
  · rw [hnone.openingLine] at h
    cases h
    have hle := hnone.net_nonpos
    exact .bare hnone (by rw [netOf] at hle ⊢; omega)

/-- The reader finds the extent of a block where it has one. -/
theorem HasExtent.extent_eq_ok {header : Line} {rest : List Line} {e : Extent}
    (h : HasExtent header rest e) (kind : BlockKind) : extent kind header rest = .ok e := by
  cases h with
  | bare hbody hnet =>
    rw [netOf] at hnet
    rw [extent, hbody.takeDeclaration, extentAfter, hbody.openingLine]
    simp [hnet]
  | closed hopens hnet =>
    rw [netOf] at hnet
    rw [extent, hopens.takeDeclaration, extentAfter, hopens.openingLine]
    simp [hnet]
  | @enclosed clause inner after opening close hopens hinner hnet =>
    have hpos := hinner.depth_pos
    have hbody : takeBody? (netOf (header :: clause)) (inner ++ close :: after) =
        some (⟨inner, close, after⟩, 0) :=
      (takeBody_eq_some_iff hpos).2 ⟨rfl, hinner, hnet.symm, Int.le_refl _⟩
    rw [netOf] at hpos hbody
    rw [extent, hopens.takeDeclaration, extentAfter, hopens.openingLine]
    dsimp only
    rw [if_neg (by omega), if_neg (by omega), hbody]
    rfl

/-- The clauses of a block are those that the reader takes. -/
theorem HasExtent.takeDeclaration_eq {header : Line} {rest : List Line} {e : Extent}
    (h : HasExtent header rest e) : (takeDeclaration header rest).1 = e.clause := by
  cases h with
  | bare hbody _ => rw [hbody.takeDeclaration]
  | closed hopens _ => rw [hopens.takeDeclaration]
  | enclosed hopens _ _ => rw [hopens.takeDeclaration]

/-- The reader finds exactly the extents that there are. -/
theorem extent_eq_ok_iff {kind : BlockKind} {header : Line} {rest : List Line} {e : Extent} :
    extent kind header rest = .ok e ↔ HasExtent header rest e :=
  ⟨hasExtent_of_extent, fun h => h.extent_eq_ok kind⟩

end PluginBuild.Listing
