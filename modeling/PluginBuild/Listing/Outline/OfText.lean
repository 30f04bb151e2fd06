import PluginBuild.Listing.Outline
/-!
# Reading the outline of a listing

A line that starts with the keyword of a declaration is the header of a block. The block goes on
over the clauses of the declaration and its body in braces; only bodies of types and namespaces
are read further. No line is lost, and each is read once.
-/

namespace PluginBuild.Listing

/-- Where declarations are read. -/
inductive Region
  /-- Outside of types: at the top, or in a namespace. -/
  | module
  /-- In the body of a type. -/
  | type
deriving DecidableEq

/-- The kind of block that a keyword starts in a region. -/
def Region.opens? (region : Region) (keyword : String) : Option BlockKind :=
  match region, keyword with
  | .module, ".assembly" => some .assembly
  | .module, ".data" => some .data
  | .module, ".namespace" => some .other
  | .module, ".mresource" => some .other
  | .type, ".property" => some .other
  | .type, ".event" => some .other
  | _, ".class" => some .type
  | _, ".method" => some .method
  | _, _ => none

/-- The region in the body of a block whose declarations are read. -/
def bodyRegion? (kind : BlockKind) (keyword : String) : Option Region :=
  match kind with
  | .type => some .type
  | .other => if keyword = ".namespace" then some .module else none
  | _ => none

/-- What a line is in a region: the header of a block, or a line of its own. Braces that a line
opens start a block without a declaration; braces that it closes have no block to close. -/
def Region.kindOf (region : Region) (line : Line) : Except Fault (Option BlockKind) :=
  match region.opens? line.keyword with
  | some kind => .ok (some kind)
  | none =>
    if line.net < 0 then .error .closeBrace
    else if 0 < line.net then .ok (some .other)
    else .ok none

/-- Whether a line before the body goes on with the declaration: it is a clause, or it starts the
body. A directive, a comment, a blank line or a closing brace does not. -/
def Line.goesOn (line : Line) : Bool :=
  let text := line.trimmed
  !(text.isEmpty || text.head? == some '.' || text.head? == some '\x7d' ||
    "//".toList.isPrefixOf text)

/-- The lines of a declaration after its header, up to the one that opens the body, and the lines
after them. -/
def takeClause : List Line → List Line × List Line
  | [] => ([], [])
  | line :: rest =>
    if !line.goesOn then ([], line :: rest)
    else if 0 < line.opens then ([line], rest)
    else
      let more := takeClause rest
      (line :: more.1, more.2)

/-- A body in braces. -/
structure Body where
  /-- The lines between the line that opens the body and the line that closes it. -/
  inner : List Line
  /-- The line that closes the body. -/
  close : Line
  /-- The lines after it. -/
  after : List Line

/-- The body that goes on inside `depth` braces, and the net number of braces open after it. There
is none where the lines end inside it. -/
def takeBody? (depth : Int) : List Line → Option (Body × Int)
  | [] => none
  | line :: rest =>
    if depth + line.net ≤ 0 then some (⟨[], line, rest⟩, depth + line.net)
    else (takeBody? (depth + line.net) rest).map fun more =>
      ({ more.1 with inner := line :: more.1.inner }, more.2)

/-- The lines of a block after its header. -/
structure Extent where
  /-- The lines of the declaration, with the one that opens the body. -/
  clause : List Line
  /-- The lines between the one that opens the body and the one that closes it. -/
  inner : List Line
  /-- The line that closes the body, where it is not the one that opens it. -/
  close : Option Line
  /-- Whether the lines that open and close the body have no brace besides. -/
  delimited : Bool
  /-- The lines after the block. -/
  after : List Line

/-- The line that opens the body. -/
def openingLine? (header : Line) (clause : List Line) : Option Line :=
  if 0 < header.opens then some header else clause.getLast?.filter (0 < ·.opens)

/-- The lines of a declaration after its header, and the lines after them. A header that opens the
body itself has no clauses. -/
def takeDeclaration (header : Line) (rest : List Line) : List Line × List Line :=
  if 0 < header.opens then ([], rest) else takeClause rest

/-- How many more braces lines open than they close. -/
def netOf : List Line → Int
  | [] => 0
  | line :: rest => line.net + netOf rest

/-- The extent of the block with the given header and clauses, before `rest`. -/
def extentAfter (kind : BlockKind) (header : Line) (clause rest : List Line) :
    Except Malformed Extent :=
  let depth := header.net + netOf clause
  if depth < 0 then .error ⟨(clause.getLast?.getD header).number, .overclosed kind⟩
  else match openingLine? header clause with
    | none => .ok ⟨clause, [], none, false, rest⟩
    | some opening =>
      if depth = 0 then .ok ⟨clause, [], none, false, rest⟩
      else match takeBody? depth rest with
        | none => .error ⟨header.number, .unterminated kind header.keyword⟩
        | some (body, depth) =>
          if depth < 0 then .error ⟨body.close.number, .overclosed kind⟩
          else .ok ⟨clause, body.inner, some body.close,
            opening.net = 1 && body.close.net = -1, body.after⟩

/-- The extent of the block with the given header. -/
def extent (kind : BlockKind) (header : Line) (rest : List Line) : Except Malformed Extent :=
  extentAfter kind header (takeDeclaration header rest).1 (takeDeclaration header rest).2

/-- The clause and the lines after it are the lines given. -/
theorem takeClause_append (lines : List Line) :
    (takeClause lines).1 ++ (takeClause lines).2 = lines := by
  fun_induction takeClause lines with
  | case1 => rfl
  | case2 => rfl
  | case3 => rfl
  | case4 line rest _ _ more ih => simp only [List.cons_append]; rw [ih]

/-- The body and the lines after it are the lines given. -/
theorem takeBody_append {depth : Int} {lines : List Line} {r : Body × Int}
    (h : takeBody? depth lines = some r) : r.1.inner ++ r.1.close :: r.1.after = lines := by
  induction lines generalizing depth r with
  | nil => simp [takeBody?] at h
  | cons line rest ih =>
    rw [takeBody?] at h
    split at h
    · cases h; rfl
    · obtain ⟨more, hmore, rfl⟩ := Option.map_eq_some_iff.1 h
      simp [ih hmore]

/-- The lines of a declaration and those after it are the lines given. -/
theorem takeDeclaration_append (header : Line) (rest : List Line) :
    (takeDeclaration header rest).1 ++ (takeDeclaration header rest).2 = rest := by
  unfold takeDeclaration
  split
  · rfl
  · exact takeClause_append rest

/-- An extent and the lines after it are the clauses and the lines given. -/
theorem extentAfter_append {kind : BlockKind} {header : Line} {clause rest : List Line}
    {e : Extent} (h : extentAfter kind header clause rest = .ok e) :
    e.clause ++ (e.inner ++ (e.close.toList ++ e.after)) = clause ++ rest := by
  unfold extentAfter at h
  dsimp only at h
  split at h
  · simp at h
  · split at h
    · simp only [Except.ok.injEq] at h; subst h; rfl
    · split at h
      · simp only [Except.ok.injEq] at h; subst h; rfl
      · split at h
        · simp at h
        · next hbody =>
          split at h
          · simp at h
          · simp only [Except.ok.injEq] at h
            subst h
            exact congrArg (clause ++ ·) (takeBody_append hbody)

/-- An extent and the lines after it are the lines after the header. -/
theorem extent_append {kind : BlockKind} {header : Line} {rest : List Line} {e : Extent}
    (h : extent kind header rest = .ok e) :
    e.clause ++ (e.inner ++ (e.close.toList ++ e.after)) = rest := by
  rw [extentAfter_append h, takeDeclaration_append]

/-- The lines in a body are fewer than the lines after the header. -/
theorem length_inner_le {kind : BlockKind} {header : Line} {rest : List Line} {e : Extent}
    (h : extent kind header rest = .ok e) : e.inner.length ≤ rest.length := by
  have := congrArg List.length (extent_append h)
  simp only [List.length_append] at this
  omega

/-- The lines after a block are fewer than the lines after its header. -/
theorem length_after_le {kind : BlockKind} {header : Line} {rest : List Line} {e : Extent}
    (h : extent kind header rest = .ok e) : e.after.length ≤ rest.length := by
  have := congrArg List.length (extent_append h)
  simp only [List.length_append] at this
  omega

/-- The outline of lines in a region. A body whose lines make no outline stays without blocks. -/
def outlineOf (region : Region) (lines : List Line) : Except Malformed Outline :=
  match lines with
  | [] => .ok .nil
  | line :: rest =>
    match region.kindOf line with
    | .error fault => .error ⟨line.number, fault⟩
    | .ok none => (outlineOf region rest).map (.leaf line)
    | .ok (some kind) =>
      match _h : extent kind line rest with
      | .error malformed => .error malformed
      | .ok e =>
        let inner : Outline :=
          match bodyRegion? kind line.keyword with
          | none => .ofLines e.inner
          | some region' =>
            if e.delimited then
              match outlineOf region' e.inner with
              | .ok outline => outline
              | .error _ => .ofLines e.inner
            else .ofLines e.inner
        let body := (Outline.ofLines e.clause).append (inner.append (.ofLines e.close.toList))
        (outlineOf region e.after).map (Outline.ofBlock kind line body)
termination_by lines.length
decreasing_by
  · simp
  · exact Nat.lt_succ_of_le (length_inner_le _h)
  · exact Nat.lt_succ_of_le (length_after_le _h)

/-- The outline of a text. -/
def Outline.ofText (text : List Char) : Except Malformed Outline := do
  outlineOf .module (← logicalLines text)

end PluginBuild.Listing
