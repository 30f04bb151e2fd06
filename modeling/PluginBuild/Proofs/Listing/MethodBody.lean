import Mathlib.Data.List.Nodup
import PluginBuild.Proofs.Listing.Splitting
/-!
# Lines in the bodies of methods

`InMethodBody` says by the braces alone which lines of a region are in the body of a method that
the reader takes for a block. These are the lines of methods in the outline
(`Reads.inMethodBody_of_leaf`, `InMethodBody.exists_leaf`). `InsideMethod` says it of every layout
of the braces, of which the former is a part (`InMethodBody.insideMethod`).
-/

namespace PluginBuild.Listing

/-- The region in the body of a type or namespace with the given header. A namespace in a type is
one only where its header opens a brace. -/
def Region.within? (region : Region) (header : Line) : Option Region :=
  if header.keyword = ".class" then some .type
  else if header.keyword = ".namespace" ∧ (region = .module ∨ 0 < header.net) then some .module
  else none

/-- The line, between the lines before and after it in a region, is in the body of a method: the
body has been opened by the header or by a line that goes on with it, and has not been closed. The
method stands in the region, or in the body of a type or namespace whose bounds have no brace
besides. -/
inductive InMethodBody : Region → List Line → Line → List Line → Prop
  | method {region : Region} {before clause mid after : List Line} {header opening line : Line}
      (hbefore : netOf before = 0) (hkeyword : header.keyword = ".method")
      (hopens : Opens header clause opening) (hmid : StaysOpen (netOf (header :: clause)) mid) :
      InMethodBody region (before ++ header :: (clause ++ mid)) line after
  | nested {region within : Region} {before clause pre post after : List Line}
      {header opening line close : Line} (hbefore : netOf before = 0)
      (hregion : region.within? header = some within) (hopens : Opens header clause opening)
      (hopening : opening.net = 1) (hdepth : netOf (header :: clause) = 1)
      (hinner : StaysOpen 1 (pre ++ line :: post)) (hnet : netOf (pre ++ line :: post) = 0)
      (hclose : close.net = -1) (h : InMethodBody within pre line post) :
      InMethodBody region (before ++ header :: (clause ++ pre)) line (post ++ close :: after)

/-- Whether a line can stand between the header of a declaration and the brace that opens its
body: it goes on with the declaration, is blank or is a comment. -/
def Line.leadsToBody (line : Line) : Bool :=
  line.goesOn || line.trimmed.isEmpty || "//".toList.isPrefixOf line.trimmed

/-- The header, or else the last of the lines after it, has the first brace that opens the body. -/
inductive OpensBody (header : Line) : List Line → Prop
  | atHeader (h : 0 < header.opens) : OpensBody header []
  | later {between : List Line} {opening : Line} (hheader : header.opens = 0)
      (hbetween : ∀ line ∈ between, line.leadsToBody = true ∧ line.opens = 0)
      (hopening : opening.leadsToBody = true) (hopens : 0 < opening.opens) :
      OpensBody header (between ++ [opening])

/-- After the lines no brace is open but those of bodies of types and namespaces. -/
inductive AmongDeclarations : List Line → Prop
  | top {before : List Line} (h : netOf before = 0) : AmongDeclarations before
  | within {before clause mid : List Line} {header : Line} (hbefore : AmongDeclarations before)
      (hkeyword : header.keyword = ".class" ∨ header.keyword = ".namespace")
      (hopens : OpensBody header clause) (hdepth : netOf (header :: clause) = 1)
      (hmid : StaysOpen 1 mid) (hnet : netOf mid = 0) :
      AmongDeclarations (before ++ header :: (clause ++ mid))

/-- After the lines the body of a method is open, however the braces are laid out. -/
inductive InsideMethod : List Line → Prop
  | mk {before clause mid : List Line} {header : Line} (hbefore : AmongDeclarations before)
      (hkeyword : header.keyword = ".method") (hopens : OpensBody header clause)
      (hmid : StaysOpen (netOf (header :: clause)) mid) :
      InsideMethod (before ++ header :: (clause ++ mid))

/-- A keyword alone starts a block that has a declaration. -/
theorem Region.kindOf_eq_some_iff {region : Region} {header : Line} {kind : BlockKind}
    (hkind : kind ≠ .other) :
    region.kindOf header = .ok (some kind) ↔ region.opens? header.keyword = some kind := by
  rw [kindOf]
  split
  · next found hfound => simp [hfound]
  · next hnone =>
    rw [hnone]
    split
    · simp
    · split
      · simpa using hkind.symm
      · simp

theorem Region.opens_type_iff {region : Region} {keyword : String} :
    region.opens? keyword = some .type ↔ keyword = ".class" := by
  constructor
  · intro h
    unfold opens? at h
    split at h <;> simp_all
  · rintro rfl
    cases region <;> rfl

theorem Region.opens_method_iff {region : Region} {keyword : String} :
    region.opens? keyword = some .method ↔ keyword = ".method" := by
  constructor
  · intro h
    unfold opens? at h
    split at h <;> simp_all
  · rintro rfl
    cases region <;> rfl

theorem Region.kindOf_type_iff {region : Region} {header : Line} :
    region.kindOf header = .ok (some .type) ↔ header.keyword = ".class" :=
  (kindOf_eq_some_iff (by simp)).trans opens_type_iff

theorem Region.kindOf_method_iff {region : Region} {header : Line} :
    region.kindOf header = .ok (some .method) ↔ header.keyword = ".method" :=
  (kindOf_eq_some_iff (by simp)).trans opens_method_iff

/-- A namespace in a type is a block only where its header opens a brace. -/
theorem Region.kindOf_namespace_iff {region : Region} {header : Line}
    (h : header.keyword = ".namespace") :
    region.kindOf header = .ok (some .other) ↔ region = .module ∨ 0 < header.net := by
  rw [kindOf, h]
  cases region with
  | module => simp [opens?]
  | type =>
    simp only [opens?, reduceCtorEq, false_or]
    by_cases hneg : header.net < 0
    · rw [if_pos hneg]
      have hpos : ¬ 0 < header.net := by omega
      simp [hpos]
    · rw [if_neg hneg]
      by_cases hpos : 0 < header.net
      · simp [hpos]
      · simp [hpos]

/-- The reader goes on in the bodies of types and namespaces. -/
theorem Region.within_eq_some_iff {region within : Region} {header : Line} :
    region.within? header = some within ↔
      ∃ kind, region.kindOf header = .ok (some kind) ∧
        bodyRegion? kind header.keyword = some within := by
  rw [within?]
  constructor
  · intro h
    split at h
    · next hclass =>
      cases h
      exact ⟨.type, kindOf_type_iff.2 hclass, rfl⟩
    · split at h
      · next hnamespace =>
        cases h
        exact ⟨.other, (kindOf_namespace_iff hnamespace.1).2 hnamespace.2, if_pos hnamespace.1⟩
      · cases h
  · rintro ⟨kind, hkind, hbody⟩
    cases kind with
    | type =>
      rw [if_pos (kindOf_type_iff.1 hkind)]
      exact hbody
    | other =>
      rw [bodyRegion?] at hbody
      split at hbody
      · next hnamespace =>
        rw [if_neg (by simp [hnamespace]),
          if_pos ⟨hnamespace, (kindOf_namespace_iff hnamespace).1 hkind⟩]
        exact hbody
      · cases hbody
    | assembly => cases hbody
    | method => cases hbody
    | data => cases hbody

theorem Line.goesOn_of_method {line : Line} (h : line.keyword = ".method") :
    line.goesOn = false :=
  Line.goesOn_of_keyword "method".toList h

theorem Region.within_goesOn {region within : Region} {line : Line}
    (h : region.within? line = some within) : line.goesOn = false := by
  rw [within?] at h
  split at h
  · next hclass => exact Line.goesOn_of_keyword "class".toList hclass
  · split at h
    · next hnamespace => exact Line.goesOn_of_keyword "namespace".toList hnamespace.1
    · cases h

/-- The lines of a method are lines of its own. -/
theorem Outline.exists_entries_ofMethod (header : Line) (lines : List Line) (rest : Outline) :
    ∃ owner method, (ofBlock .method header (ofLines lines) rest).entries =
      .enter .method header method ::
        (lines.map (.leaf (some owner)) ++ .leave :: rest.entries) := by
  let method := MethodHeader.ofDeclaration? (declaration header.text (ofLines lines))
  refine ⟨Block.methodName ⟨.method, header, method, ofLines lines⟩, method, ?_⟩
  rw [entries, ofBlock, entriesIn, Block.owner, if_pos rfl, entriesIn_ofLines]
  rfl

/-- A line in the body of a method is a line of a method in the outline. -/
theorem InMethodBody.exists_leaf {region : Region} {before after : List Line} {line : Line}
    (h : InMethodBody region before line after) {outline : Outline}
    (hreads : Reads region (before ++ line :: after) outline) :
    ∃ first owner last, outline.entries = first ++ .leaf (some owner) line :: last ∧
      first.filterMap Entry.line? = before := by
  induction h generalizing outline with
  | @method region before clause mid after header opening line hbefore hkeyword hopens hmid =>
    have hlines : (before ++ header :: (clause ++ mid)) ++ line :: after =
        before ++ header :: (clause ++ (mid ++ line :: after)) := by
      simp
    rw [hlines] at hreads
    -- The outline is cut at the header, and the block that begins there has the line.
    obtain ⟨first, second, rfl, hfirst, hsecond⟩ :=
      hreads.split rfl hbefore (Line.goesOn_of_method hkeyword)
    obtain ⟨e, inner, rest, hextent, rfl, hflat, -⟩ :=
      hsecond.block_inv (Region.kindOf_method_iff.2 hkeyword)
    obtain ⟨more, hmore⟩ := hextent.exists_lines_of_staysOpen rfl hopens hmid
    obtain ⟨owner, method, hentries⟩ :=
      Outline.exists_entries_ofMethod header e.lines rest
    refine ⟨first.entries ++ .enter .method header method ::
      (clause ++ mid).map (.leaf (some owner)), owner,
      more.map (.leaf (some owner)) ++ .leave :: rest.entries, ?_, ?_⟩
    · have hregion : e.region? .method header.keyword = none := by
        rw [Extent.region?]
        split <;> rfl
      rw [hflat hregion, Extent.around_ofLines, Outline.entries_append, hentries, hmore]
      simp
    · rw [List.filterMap_append, Outline.filterMap_line_entries, hfirst.lines_eq,
        List.filterMap_cons, Outline.filterMap_line_leaves]
      rfl
  | @nested region within before clause pre post after header opening line close hbefore hregion
      hopens hopening hdepth hinner hnet hclose _ ih =>
    have hlines : (before ++ header :: (clause ++ pre)) ++ line :: (post ++ close :: after) =
        before ++ header :: (clause ++ ((pre ++ line :: post) ++ close :: after)) := by
      simp
    rw [hlines] at hreads
    obtain ⟨first, second, rfl, hfirst, hsecond⟩ :=
      hreads.split rfl hbefore (Region.within_goesOn hregion)
    obtain ⟨kind, hkind, hbody⟩ := Region.within_eq_some_iff.1 hregion
    obtain ⟨e, inner, rest, hextent, rfl, -, hwithin⟩ := hsecond.block_inv hkind
    -- A block has one extent, so its body is the one around the line, and is read further.
    have hknown : HasExtent header (clause ++ ((pre ++ line :: post) ++ close :: after)) _ :=
      .enclosed hopens (by rwa [hdepth]) (by rw [hdepth, hnet, hclose]; rfl)
    cases hextent.unique hknown
    have hinside := hwithin within (by simp [Extent.region?, hopening, hclose, hbody])
    obtain ⟨firstIn, owner, lastIn, hentries, hfirstIn⟩ := ih hinside
    have hmethod : kind ≠ .method := by
      rintro rfl
      cases hbody
    refine ⟨first.entries ++ .enter kind header none ::
      (clause.map (.leaf none) ++ firstIn), owner,
      lastIn ++ .leaf none close :: .leave :: rest.entries, ?_, ?_⟩
    · rw [Outline.entries_append, Outline.entries_ofBlock hmethod, Extent.entries_around,
        hentries]
      simp
    · rw [List.filterMap_append, Outline.filterMap_line_entries, hfirst.lines_eq,
        List.filterMap_cons, List.filterMap_append, Outline.filterMap_line_leaves, hfirstIn]
      rfl

/-- Lines that close the braces they open can stand before lines of a region. -/
theorem InMethodBody.prepend {region : Region} {before after : List Line} {line : Line}
    (h : InMethodBody region before line after) {lines : List Line} (hnet : netOf lines = 0) :
    InMethodBody region (lines ++ before) line after := by
  cases h with
  | method hbefore hkeyword hopens hmid =>
    rw [← List.append_assoc]
    exact .method (by rw [netOf_append, hnet, hbefore]; rfl) hkeyword hopens hmid
  | nested hbefore hregion hopens hopening hdepth hinner hzero hclose hwithin =>
    rw [← List.append_assoc]
    exact .nested (by rw [netOf_append, hnet, hbefore]; rfl) hregion hopens hopening hdepth hinner
      hzero hclose hwithin

/-- A line among the entries of a block and of what follows it is in the block or after it. -/
theorem cons_enter_eq_append {kind : BlockKind} {header line : Line}
    {method : Option MethodHeader} {owner : Option String} {body rest first last : List Entry}
    (h : .enter kind header method :: (body ++ .leave :: rest) =
      first ++ .leaf owner line :: last) :
    (∃ before after, first = .enter kind header method :: before ∧
      body = before ++ .leaf owner line :: after ∧ last = after ++ .leave :: rest) ∨
    ∃ before, first = .enter kind header method :: (body ++ .leave :: before) ∧
      rest = before ++ .leaf owner line :: last := by
  cases first with
  | nil => simp at h
  | cons entry first =>
    obtain ⟨rfl, hmore⟩ := List.cons.inj h
    rcases append_cons_eq_append hmore.symm with ⟨after, hbody, hlast⟩ | ⟨before, rfl, hrest⟩
    · exact .inl ⟨first, after, rfl, hbody, hlast⟩
    · cases before with
      | nil => simp at hrest
      | cons entry before =>
        obtain ⟨rfl, hafter⟩ := List.cons.inj hrest
        exact .inr ⟨before, rfl, hafter⟩

/-- A line in the body of the method that a block is. -/
theorem HasExtent.inMethodBody {header : Line} {rest : List Line} {e : Extent}
    (h : HasExtent header rest e) (hkeyword : header.keyword = ".method")
    {before after : List Line} {line : Line} (hlines : e.lines = before ++ line :: after)
    (hline : line.goesOn = false) (region : Region) (behind : List Line) :
    InMethodBody region (header :: before) line behind := by
  obtain ⟨opening, mid, hopens, rfl, hmid⟩ := h.opens_of_split hlines hline
  have hmethod : InMethodBody region ([] ++ header :: (e.clause ++ mid)) line behind :=
    .method rfl hkeyword hopens hmid
  exact hmethod

/-- A line of a method in the outline that does not go on with the declaration is in the body of a
method. -/
theorem Reads.inMethodBody_of_leaf {region : Region} {lines : List Line} {outline : Outline}
    (h : Reads region lines outline) {first last : List Entry} {owner : String} {line : Line}
    (hentries : outline.entries = first ++ .leaf (some owner) line :: last)
    (hline : line.goesOn = false) :
    InMethodBody region (first.filterMap Entry.line?) line (last.filterMap Entry.line?) := by
  induction h generalizing first last owner line with
  | nil => simp [Outline.entries, Outline.entriesIn] at hentries
  | @leaf region header rest outline hkind _ ih =>
    cases first with
    | nil => simp [Outline.entries, Outline.entriesIn] at hentries
    | cons entry first =>
      obtain ⟨rfl, hrest⟩ := List.cons.inj hentries
      -- A line of its own opens and closes nothing.
      have hnet : netOf [header] = 0 := by
        rw [netOf, net_eq_zero_of_kindOf hkind]
        rfl
      exact (ih hrest hline).prepend hnet
  | @flat region kind header rest e outline hkind hextent hregion hafter ih =>
    rw [Extent.around_ofLines] at hentries
    rcases cons_enter_eq_append hentries with
      ⟨before, after, rfl, hbody, rfl⟩ | ⟨before, rfl, hrest⟩
    · -- All lines of the block have one owner, and have one at all in a method only.
      rw [Outline.entriesIn_ofLines] at hbody
      obtain ⟨linesBefore, others, hlines, rfl, hothers⟩ := List.map_eq_append_iff.1 hbody
      obtain ⟨other, linesAfter, rfl, hother, rfl⟩ := List.map_eq_cons_iff.1 hothers
      obtain ⟨howner, rfl⟩ := Entry.leaf.inj hother
      have hmethod : kind = .method := by
        by_contra hne
        rw [Block.owner, if_neg hne] at howner
        cases howner
      subst hmethod
      rw [List.filterMap_cons, Outline.filterMap_line_leaves]
      exact hextent.inMethodBody (Region.kindOf_method_iff.1 hkind) hlines hline region _
    · have hafterBlock := (ih hrest hline).prepend hextent.net_eq_zero
      rw [List.filterMap_cons, List.filterMap_append, Outline.filterMap_line_entriesIn,
        Outline.lines_ofLines]
      exact hafterBlock
  | @nested region within kind header rest e inner outline hkind hextent hregion hinner hafter
      ihinner ih =>
    have hmethod := Extent.ne_method_of_region hregion
    rw [Outline.entries_ofBlock hmethod] at hentries
    rcases cons_enter_eq_append hentries with
      ⟨before, after, rfl, hbody, rfl⟩ | ⟨before, rfl, hrest⟩
    · -- The clauses of the block and the line that closes it are lines of no method.
      rw [Extent.entries_around] at hbody
      rcases append_cons_eq_append hbody.symm with ⟨more, hclause, -⟩ | ⟨before, rfl, hmore⟩
      · have hleaf : Entry.leaf (some owner) line ∈ e.clause.map (Entry.leaf none) := by
          simp [hclause]
        simp at hleaf
      rcases append_cons_eq_append hmore.symm with ⟨after, hin, rfl⟩ | ⟨more, -, hclose⟩
      · have hwithin := ihinner hin hline
        have hlines : before.filterMap Entry.line? ++ line :: after.filterMap Entry.line? =
            e.inner := by
          rw [← hinner.lines_eq, ← Outline.filterMap_line_entries, hin, List.filterMap_append]
          rfl
        obtain ⟨opening, close, hopens, hopening, hdepth, hopen, hzero, hlast, hclose⟩ :=
          hextent.bounds_of_delimited (Extent.delimited_of_region hregion)
        rw [← hlines] at hopen hzero
        rw [Extent.region?, if_pos (Extent.delimited_of_region hregion)] at hregion
        have hnested : InMethodBody region
            ([] ++ header :: (e.clause ++ before.filterMap Entry.line?)) line
            (after.filterMap Entry.line? ++ close :: outline.lines) :=
          .nested rfl (Region.within_eq_some_iff.2 ⟨kind, hkind, hregion⟩) hopens hopening hdepth
            hopen hzero hclose hwithin
        simp only [List.filterMap_cons, List.filterMap_append, Outline.filterMap_line_leaves,
          Outline.filterMap_line_entries, hlast, Option.toList_some, List.map_cons, List.map_nil,
          Entry.line?, List.append_assoc, List.singleton_append]
        exact hnested
      · have hleaf : Entry.leaf (some owner) line ∈ e.close.toList.map (Entry.leaf none) := by
          simp [hclose]
        simp at hleaf
    · have hafterBlock := (ih hrest hline).prepend hextent.net_eq_zero
      rw [List.filterMap_cons, List.filterMap_append, Outline.filterMap_line_entries,
        Extent.lines_around, hinner.lines_eq]
      exact hafterBlock

/-- A declaration that opens a body does so in any layout. -/
theorem Opens.opensBody {header opening : Line} {clause : List Line}
    (h : Opens header clause opening) : OpensBody header clause := by
  cases h with
  | atHeader h => exact .atHeader h
  | atClause hheader hclauses hgoesOn hopens =>
    refine .later hheader (fun line hline => ?_) (by simp [Line.leadsToBody, hgoesOn]) hopens
    obtain ⟨hline, hzero⟩ := hclauses line hline
    exact ⟨by simp [Line.leadsToBody, hline], hzero⟩

theorem Region.keyword_of_within {region within : Region} {header : Line}
    (h : region.within? header = some within) :
    header.keyword = ".class" ∨ header.keyword = ".namespace" := by
  rw [within?] at h
  split at h
  · next hclass => exact .inl hclass
  · split at h
    · next hnamespace => exact .inr hnamespace.1
    · cases h

/-- In the body of a method that is a block, a method is open. `outer` are the lines before those
of the region. -/
theorem InMethodBody.insideMethod_append {region : Region} {before after outer : List Line}
    {line : Line} (h : InMethodBody region before line after)
    (houter : ∀ mid more, before = mid ++ more → netOf mid = 0 →
      AmongDeclarations (outer ++ mid)) :
    InsideMethod (outer ++ before) := by
  induction h generalizing outer with
  | @method region before clause mid after header opening line hbefore hkeyword hopens hmid =>
    rw [← List.append_assoc]
    exact .mk (houter before _ rfl hbefore) hkeyword hopens.opensBody hmid
  | @nested region within before clause pre post after header opening line close hbefore hregion
      hopens hopening hdepth hinner hnet hclose _ ih =>
    have hlines : outer ++ (before ++ header :: (clause ++ pre)) =
        (outer ++ (before ++ header :: clause)) ++ pre := by
      simp
    rw [hlines]
    refine ih fun mid more hpre hzero => ?_
    have hmid : StaysOpen 1 mid := by
      rw [hpre, List.append_assoc] at hinner
      exact (staysOpen_append.1 hinner).1
    have hwithin := AmongDeclarations.within (houter before _ rfl hbefore)
      (Region.keyword_of_within hregion) hopens.opensBody hdepth hmid hzero
    simpa using hwithin

/-- In the body of a method that is a block, a method is open. -/
theorem InMethodBody.insideMethod {before after : List Line} {line : Line}
    (h : InMethodBody .module before line after) : InsideMethod before := by
  have hinside : InsideMethod ([] ++ before) :=
    h.insideMethod_append fun _ _ _ hnet => .top hnet
  exact hinside

/-- Of a text, a removal takes out just the markers of the names in the bodies of methods. -/
theorem mem_lines_removeExports_iff {text : List Char} {outline : Outline}
    (h : Outline.ofText text = .ok outline) {names : List String} {before after : List Line}
    {line : Line} (hlines : outline.lines = before ++ line :: after) :
    line ∈ (outline.removeExports names).lines ↔
      ¬ ((∃ marker, ExportMarker.ofLine? line.text = some marker ∧ marker.name ∈ names) ∧
        InMethodBody .module before line after) := by
  obtain ⟨lines, hlogical, hreads⟩ := ofText_eq_ok_iff.1 h
  have hsame := hreads.lines_eq
  subst hsame
  have hnodup := (laidOut_logicalLines hlogical).1.nodup
  obtain ⟨hbefore, hafter⟩ : line ∉ before ∧ line ∉ after := by
    rw [hlines, List.nodup_middle, List.nodup_cons, List.mem_append, not_or] at hnodup
    exact hnodup.1
  have hplace {first last : List Entry} {owner : Option String}
      (hentries : outline.entries = first ++ .leaf owner line :: last) :
      before = first.filterMap Entry.line? ∧ after = last.filterMap Entry.line? := by
    have hsplit : before ++ line :: after =
        first.filterMap Entry.line? ++ line :: last.filterMap Entry.line? := by
      rw [← hlines, ← Outline.filterMap_line_entries, hentries, List.filterMap_append]
      rfl
    obtain ⟨hfirst, -, hlast⟩ := (List.append_cons_inj_of_notMem hbefore hafter).1 hsplit
    exact ⟨hfirst, hlast⟩
  have hmem : line ∈ outline.lines := by simp [hlines]
  have hgone : line ∈ outline.removedLines names ↔
      (∃ marker, ExportMarker.ofLine? line.text = some marker ∧ marker.name ∈ names) ∧
        InMethodBody .module before line after := by
    rw [Outline.mem_removedLines]
    constructor
    · rintro ⟨entry, hentry, hkept, hline⟩
      obtain ⟨owner, other, marker, rfl, hmarker, hname⟩ := Outline.isKept_eq_false_iff.1 hkept
      obtain rfl : other = line := Option.some.inj hline
      obtain ⟨first, last, hentries⟩ := List.append_of_mem hentry
      have hbody := hreads.inMethodBody_of_leaf hentries (Line.goesOn_of_marker hmarker)
      obtain ⟨rfl, rfl⟩ := hplace hentries
      exact ⟨⟨marker, hmarker, hname⟩, hbody⟩
    · rintro ⟨⟨marker, hmarker, hname⟩, hbody⟩
      obtain ⟨first, owner, last, hentries, -⟩ := hbody.exists_leaf (hlines ▸ hreads)
      refine ⟨.leaf (some owner) line, by simp [hentries], ?_, rfl⟩
      exact Outline.isKept_eq_false_iff.2 ⟨owner, line, marker, rfl, hmarker, hname⟩
  rw [← hgone, Outline.mem_removedLines_iff hnodup]
  simp [hmem]

end PluginBuild.Listing
