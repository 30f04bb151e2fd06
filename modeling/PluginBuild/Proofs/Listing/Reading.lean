import PluginBuild.Proofs.Listing.Extent
import PluginBuild.Proofs.Listing.Line
/-!
# Reading an outline, as rules

`Reads` says with one rule for each way a line can begin what the outline of lines is. Lines whose
braces balance always have one (`exists_reads`), so that a body which is read further never has to
be kept without blocks, and the reader follows exactly these rules (`outlineOf_eq_ok_iff`).
-/

namespace PluginBuild.Listing

namespace Extent

/-- The lines of a block after its header. -/
def lines (e : Extent) : List Line := e.clause ++ (e.inner ++ e.close.toList)

/-- The lines of a block around an outline of those in its body. -/
def around (e : Extent) (inner : Outline) : Outline :=
  (Outline.ofLines e.clause).append (inner.append (.ofLines e.close.toList))

/-- The region in the body of a block, if the body is read further. -/
def region? (e : Extent) (kind : BlockKind) (keyword : String) : Option Region :=
  if e.delimited then bodyRegion? kind keyword else none

/-- Only a body whose bounds have no brace besides is read further. -/
theorem delimited_of_region {e : Extent} {kind : BlockKind} {keyword : String}
    {region : Region} (h : e.region? kind keyword = some region) : e.delimited = true := by
  unfold region? at h
  split at h
  · assumption
  · cases h

/-- The outline of the lines in a body. -/
def interior (e : Extent) (kind : BlockKind) (keyword : String) : Outline :=
  match e.region? kind keyword with
  | none => .ofLines e.inner
  | some region =>
    match outlineOf region e.inner with
    | .ok outline => outline
    | .error _ => .ofLines e.inner

end Extent

namespace HasExtent

variable {header : Line} {rest : List Line} {e : Extent}

/-- The lines after a header are those of its block and those after the block. -/
theorem eq_append (h : HasExtent header rest e) : rest = e.lines ++ e.after := by
  cases h <;> simp [Extent.lines]

/-- A block closes the braces it opens. -/
theorem net_eq_zero (h : HasExtent header rest e) : netOf (header :: e.lines) = 0 := by
  cases h with
  | bare _ hnet => simpa [Extent.lines] using hnet
  | closed _ hnet => simpa [Extent.lines] using hnet
  | enclosed _ _ hnet =>
    rw [Extent.lines, ← List.cons_append, netOf_append, netOf_append]
    simp only [Option.toList_some, netOf]
    simp only [netOf] at hnet
    omega

/-- A line that opens a body leaves no more open than the braces of its own. -/
theorem net_le_opening {clause : List Line} {opening : Line}
    (h : Opens header clause opening) : netOf (header :: clause) ≤ opening.net := by
  cases h with
  | atHeader h => simp [netOf]
  | @atClause clauses _ hheader hclauses hgoesOn hopens =>
    have hbefore := Line.net_nonpos hheader
    have hbetween := netOf_nonpos fun line hline => (hclauses line hline).2
    rw [netOf, netOf_append]
    simp only [netOf]
    omega

/-- The lines in a body whose bounds have no brace besides balance: one brace is open before them
and after each of them. -/
theorem bounds_of_delimited (h : HasExtent header rest e) (hdelimited : e.delimited = true) :
    ∃ opening close, Opens header e.clause opening ∧ opening.net = 1 ∧
      netOf (header :: e.clause) = 1 ∧ StaysOpen 1 e.inner ∧ netOf e.inner = 0 ∧
      e.close = some close ∧ close.net = -1 := by
  cases h with
  | bare => cases hdelimited
  | closed => cases hdelimited
  | @enclosed clause inner after opening close hopens hinner hnet =>
    obtain ⟨hopening, hclose⟩ : opening.net = 1 ∧ close.net = -1 := by simpa using hdelimited
    have hpos := hinner.depth_pos
    have hle := net_le_opening hopens
    have hone : netOf (header :: clause) = 1 := by omega
    rw [hone] at hinner hnet
    have hzero : netOf inner = 0 := by omega
    exact ⟨opening, close, hopens, hopening, hone, hinner, hzero, rfl, hclose⟩

end HasExtent

/-- Lines in a region and their outline. -/
inductive Reads : Region → List Line → Outline → Prop
  | nil {region : Region} : Reads region [] .nil
  | leaf {region : Region} {line : Line} {rest : List Line} {outline : Outline}
      (hkind : region.kindOf line = .ok none) (hrest : Reads region rest outline) :
      Reads region (line :: rest) (.leaf line outline)
  /-- A block whose body is not read further. -/
  | flat {region : Region} {kind : BlockKind} {line : Line} {rest : List Line} {e : Extent}
      {outline : Outline} (hkind : region.kindOf line = .ok (some kind))
      (hextent : HasExtent line rest e) (hregion : e.region? kind line.keyword = none)
      (hafter : Reads region e.after outline) :
      Reads region (line :: rest) (.ofBlock kind line (e.around (.ofLines e.inner)) outline)
  /-- A block whose body is read further. -/
  | nested {region within : Region} {kind : BlockKind} {line : Line} {rest : List Line}
      {e : Extent} {inner outline : Outline} (hkind : region.kindOf line = .ok (some kind))
      (hextent : HasExtent line rest e) (hregion : e.region? kind line.keyword = some within)
      (hinner : Reads within e.inner inner) (hafter : Reads region e.after outline) :
      Reads region (line :: rest) (.ofBlock kind line (e.around inner) outline)

/-- A line of its own comes before the outline of the lines after it. -/
theorem outlineOf_cons_leaf {region : Region} {line : Line} {rest : List Line}
    (hkind : region.kindOf line = .ok none) :
    outlineOf region (line :: rest) = (outlineOf region rest).map (.leaf line) := by
  rw [outlineOf, hkind]

/-- A block comes before the outline of the lines after it. -/
theorem outlineOf_cons_block {region : Region} {kind : BlockKind} {line : Line}
    {rest : List Line} {e : Extent} (hkind : region.kindOf line = .ok (some kind))
    (hextent : extent kind line rest = .ok e) :
    outlineOf region (line :: rest) = (outlineOf region e.after).map
      (.ofBlock kind line (e.around (e.interior kind line.keyword))) := by
  rw [outlineOf, hkind]
  dsimp only
  split
  · next h => rw [hextent] at h; cases h
  · next found h =>
    rw [hextent] at h
    cases h
    dsimp only [Extent.around, Extent.interior, Extent.region?]
    cases e.delimited <;> cases bodyRegion? kind line.keyword <;> rfl

/-- The first of lines that have an outline is a line of its own or the header of a block. -/
theorem kindOf_of_outlineOf {region : Region} {line : Line} {rest : List Line}
    {outline : Outline} (h : outlineOf region (line :: rest) = .ok outline) :
    region.kindOf line = .ok none ∨
      ∃ kind e, region.kindOf line = .ok (some kind) ∧ extent kind line rest = .ok e := by
  rw [outlineOf] at h
  split at h
  · cases h
  · next hkind => exact .inl hkind
  · next kind hkind =>
    split at h
    · cases h
    · next e hextent => exact .inr ⟨kind, e, hkind, hextent⟩

/-- The reader finds the outline that the rules give. -/
theorem Reads.outlineOf_eq_ok {region : Region} {lines : List Line} {outline : Outline}
    (h : Reads region lines outline) : outlineOf region lines = .ok outline := by
  induction h with
  | nil => rw [outlineOf]
  | leaf hkind _ ih => rw [outlineOf_cons_leaf hkind, ih]; rfl
  | flat hkind hextent hregion _ ih =>
    rw [outlineOf_cons_block hkind (hextent.extent_eq_ok _), ih, Extent.interior, hregion]
    rfl
  | nested hkind hextent hregion _ _ ihinner ih =>
    rw [outlineOf_cons_block hkind (hextent.extent_eq_ok _), ih, Extent.interior, hregion]
    dsimp only
    rw [ihinner]
    rfl

/-- A line that closes no brace of lines before it begins a line or a block. -/
theorem exists_kindOf {line : Line} (h : 0 ≤ line.net) (region : Region) :
    ∃ kind, region.kindOf line = .ok kind := by
  unfold Region.kindOf
  split
  · exact ⟨_, rfl⟩
  · rw [if_neg (by omega)]
    split
    · exact ⟨_, rfl⟩
    · exact ⟨_, rfl⟩

/-- A line of its own opens as many braces as it closes. -/
theorem net_eq_zero_of_kindOf {region : Region} {line : Line}
    (h : region.kindOf line = .ok none) : line.net = 0 := by
  unfold Region.kindOf at h
  split at h
  · cases h
  · split at h
    · cases h
    · split at h
      · cases h
      · omega

/-- Where the braces balance, each header has a block. -/
theorem exists_hasExtent {header : Line} {rest : List Line} (hopen : StaysOpen 1 (header :: rest))
    (hnet : netOf (header :: rest) = 0) : ∃ e, HasExtent header rest e := by
  have hrest := takeDeclaration_append header rest
  have hcases := takeDeclaration_cases header rest
  generalize (takeDeclaration header rest).1 = clause at hrest hcases
  generalize (takeDeclaration header rest).2 = after at hrest hcases
  subst hrest
  rw [← List.cons_append] at hopen hnet
  rw [staysOpen_append] at hopen
  rw [netOf_append] at hnet
  have hdepth := hopen.1.pos
  rcases hcases with ⟨opening, hopens⟩ | hnone
  · by_cases hzero : netOf (header :: clause) = 0
    · exact ⟨_, .closed hopens hzero⟩
    · have hpos : 0 < netOf (header :: clause) := by omega
      cases hbody : takeBody? (netOf (header :: clause)) after with
      | none =>
        have hend := (staysOpen_of_takeBody_eq_none hpos hbody).pos
        omega
      | some found =>
        obtain ⟨⟨inner, close, behind⟩, total⟩ := found
        obtain ⟨rfl, hinner, hsum, hle⟩ := (takeBody_eq_some_iff hpos).1 hbody
        dsimp only at hopen hinner hsum
        -- The total is not negative after the line that closes the body either.
        have hclose : 0 < 1 + netOf (header :: clause) + netOf inner + close.net :=
          (staysOpen_append.1 hopen.2).2.2.depth_pos
        have hsum : netOf (header :: clause) + netOf inner + close.net = 0 := by omega
        exact ⟨_, .enclosed hopens hinner hsum⟩
  · have hle := hnone.net_nonpos
    exact ⟨_, .bare hnone (by omega)⟩

/-- Lines whose braces balance have an outline. -/
theorem exists_reads (region : Region) (lines : List Line) (hopen : StaysOpen 1 lines)
    (hnet : netOf lines = 0) : ∃ outline, Reads region lines outline := by
  match lines with
  | [] => exact ⟨.nil, .nil⟩
  | line :: rest =>
    have hline : 0 ≤ line.net := by
      have hpos := hopen.2.depth_pos
      omega
    obtain ⟨kind, hkind⟩ := exists_kindOf hline region
    cases kind with
    | none =>
      -- A line of its own opens as many braces as it closes.
      have hzero := net_eq_zero_of_kindOf hkind
      have hopen := hopen.2
      rw [hzero] at hopen
      rw [netOf, hzero, Int.zero_add] at hnet
      obtain ⟨outline, hrest⟩ := exists_reads region rest hopen hnet
      exact ⟨_, .leaf hkind hrest⟩
    | some kind =>
      obtain ⟨e, hextent⟩ := exists_hasExtent hopen hnet
      have hextentOk := hextent.extent_eq_ok kind
      have hafterLt := length_after_le hextentOk
      have hinnerLt := length_inner_le hextentOk
      have hblock := hextent.net_eq_zero
      rw [hextent.eq_append, ← List.cons_append] at hopen hnet
      rw [staysOpen_append, hblock] at hopen
      rw [netOf_append, hblock, Int.zero_add] at hnet
      obtain ⟨outline, hafter⟩ := exists_reads region e.after hopen.2 hnet
      cases hregion : e.region? kind line.keyword with
      | none => exact ⟨_, .flat hkind hextent hregion hafter⟩
      | some within =>
        obtain ⟨_, _, -, -, -, hinner, hzero, -⟩ :=
          hextent.bounds_of_delimited (Extent.delimited_of_region hregion)
        obtain ⟨inner, hinner⟩ := exists_reads within e.inner hinner hzero
        exact ⟨_, .nested hkind hextent hregion hinner hafter⟩
termination_by lines.length

/-- The reader follows the rules. -/
theorem reads_of_outlineOf {region : Region} {lines : List Line} {outline : Outline}
    (h : outlineOf region lines = .ok outline) : Reads region lines outline := by
  match lines with
  | [] =>
    rw [outlineOf] at h
    cases h
    exact .nil
  | line :: rest =>
    rcases kindOf_of_outlineOf h with hkind | ⟨kind, e, hkind, hextent⟩
    · rw [outlineOf_cons_leaf hkind] at h
      obtain ⟨more, hrest, rfl⟩ := exists_ok_of_map_eq_ok h
      exact .leaf hkind (reads_of_outlineOf hrest)
    · rw [outlineOf_cons_block hkind hextent] at h
      obtain ⟨more, hafter, rfl⟩ := exists_ok_of_map_eq_ok h
      have hafterLt := length_after_le hextent
      have hafter := reads_of_outlineOf hafter
      have hextent := hasExtent_of_extent hextent
      unfold Extent.interior
      cases hregion : e.region? kind line.keyword with
      | none => exact .flat hkind hextent hregion hafter
      | some within =>
        obtain ⟨_, _, -, -, -, hopen, hzero, -⟩ :=
          hextent.bounds_of_delimited (Extent.delimited_of_region hregion)
        -- The braces in the body balance, so that reading it further cannot fail.
        obtain ⟨inner, hinner⟩ := exists_reads within e.inner hopen hzero
        dsimp only
        rw [hinner.outlineOf_eq_ok]
        exact .nested hkind hextent hregion hinner hafter
termination_by lines.length

/-- The reader finds exactly the outlines that the rules give. -/
theorem outlineOf_eq_ok_iff {region : Region} {lines : List Line} {outline : Outline} :
    outlineOf region lines = .ok outline ↔ Reads region lines outline :=
  ⟨reads_of_outlineOf, Reads.outlineOf_eq_ok⟩

end PluginBuild.Listing
