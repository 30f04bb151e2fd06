import Mathlib.Data.List.Nodup
import PluginBuild.Proofs.Listing.Outline
import PluginBuild.Text.Names
/-!
# What a removal of exports takes out

A removal goes over the entries of an outline and leaves out the markers of the given names in
methods, and nothing else (`entries_removeExports`). Its report and the exports before and after
it list the same markers in the same order, and several removals are one.
-/

namespace PluginBuild.Listing

/-- A marker in a method. -/
structure ExportSite where
  /-- The name of the method. -/
  method : String
  marker : ExportMarker
  line : Line

/-- What is reported of a marker that is taken out. -/
def ExportSite.removed (site : ExportSite) : RemovedExport :=
  ⟨site.marker.name, site.method, site.line.number⟩

/-- The markers of a method with their lines. -/
def Block.exportSites (block : Block) : List ExportSite :=
  block.body.leaves.filterMap fun line =>
    (ExportMarker.ofLine? line.text).map (⟨block.methodName, ·, line⟩)

/-- A block without the markers of `names`. -/
def Block.removeExports (names : List String) (block : Block) : Block :=
  let body := block.body.removeExports names
  { block with body := if block.kind = .method then body.dropMarkers names else body }

namespace Outline

/-- The markers in the methods of an outline, in the order of the exports. -/
def exportSites (outline : Outline) : List ExportSite :=
  outline.methods.flatMap Block.exportSites

variable {names : List String}

/-- A line is the marker of one of the names if it is a marker of such a name. -/
theorem markedName_eq_none_iff {line : Line} :
    markedName? names line = none ↔
      ∀ marker, ExportMarker.ofLine? line.text = some marker → marker.name ∉ names := by
  rw [markedName?]
  cases ExportMarker.ofLine? line.text <;> simp

/-- A removal leaves out of the entries the markers of the names in methods. -/
theorem entriesIn_removeExports (names : List String) (outline : Outline) :
    (outline.removeExports names).entriesIn none =
        (outline.entriesIn none).filter (Entry.isKept names) ∧
      ∀ method, ((outline.removeExports names).dropMarkers names).entriesIn (some method) =
        (outline.entriesIn (some method)).filter (Entry.isKept names) := by
  induction outline with
  | nil => exact ⟨rfl, fun _ => rfl⟩
  | leaf line rest ih =>
    refine ⟨?_, fun method => ?_⟩
    · simp [removeExports, entriesIn, List.filter_cons, ih.1]
    · rw [removeExports, dropMarkers, entriesIn, List.filter_cons, Entry.isKept_leaf_some]
      cases markedName? names line with
      | none => simp [entriesIn, ih.2]
      | some name => simp [ih.2]
  | block kind header method body rest ihbody ih =>
    -- Whether markers go from the body depends on the block alone, and not on the one around it.
    have hbody (body' : Outline)
        (heq : body' = if kind = .method then (body.removeExports names).dropMarkers names
          else body.removeExports names) :
        body'.entriesIn (Block.owner ⟨kind, header, method, body'⟩) =
          (body.entriesIn (Block.owner ⟨kind, header, method, body⟩)).filter
            (Entry.isKept names) := by
      subst heq
      by_cases hkind : kind = .method
      · subst hkind
        exact ihbody.2 _
      · simp only [Block.owner, hkind, if_false]
        exact ihbody.1
    refine ⟨?_, fun owner => ?_⟩
    · rw [removeExports, entriesIn, entriesIn, hbody _ rfl, ih.1]
      simp [List.filter_cons]
    · rw [removeExports, dropMarkers, entriesIn, entriesIn, hbody _ rfl, ih.2]
      simp [List.filter_cons]

/-- A removal leaves out of the entries the markers of the names in methods, and nothing else. -/
theorem entries_removeExports (names : List String) (outline : Outline) :
    (outline.removeExports names).entries = outline.entries.filter (Entry.isKept names) :=
  (entriesIn_removeExports names outline).1

/-- A removal parts the lines of an outline into those that are left and those that it takes out. -/
theorem lines_removeExports_perm (names : List String) (outline : Outline) :
    ((outline.removeExports names).lines ++ outline.removedLines names).Perm outline.lines := by
  have hperm := (List.filter_append_perm (Entry.isKept names) outline.entries).filterMap Entry.line?
  rwa [List.filterMap_append, ← entries_removeExports, filterMap_line_entries,
    filterMap_line_entries] at hperm

/-- Where no line stands twice, the lines taken out are those that are not left. -/
theorem mem_removedLines_iff {outline : Outline} (hnodup : outline.lines.Nodup) {line : Line} :
    line ∈ outline.removedLines names ↔
      line ∈ outline.lines ∧ line ∉ (outline.removeExports names).lines := by
  have hperm := lines_removeExports_perm names outline
  rw [← hperm.nodup_iff] at hnodup
  rw [← hperm.mem_iff, List.mem_append]
  constructor
  · intro hgone
    exact ⟨.inr hgone, fun hleft => List.disjoint_of_nodup_append hnodup hleft hgone⟩
  · rintro ⟨hleft | hgone, hnot⟩
    · exact absurd hleft hnot
    · exact hgone

/-- Names that are together the same take the same entries out. -/
theorem isKept_union {first second union : List String}
    (hunion : ∀ name, name ∈ union ↔ name ∈ first ∨ name ∈ second) (entry : Entry) :
    entry.isKept union = (entry.isKept second && entry.isKept first) := by
  match entry with
  | .enter .. => rfl
  | .leave => rfl
  | .leaf none line => rfl
  | .leaf (some _) line =>
    rw [Bool.eq_iff_iff, Bool.and_eq_true]
    simp only [Entry.isKept, Option.isNone_iff_eq_none, markedName_eq_none_iff, hunion, not_or]
    exact ⟨fun h => ⟨fun marker hmarker => (h marker hmarker).2,
      fun marker hmarker => (h marker hmarker).1⟩,
      fun h marker hmarker => ⟨h.2 marker hmarker, h.1 marker hmarker⟩⟩

/-- The order of the names does not matter. -/
theorem removeExports_congr {others : List String} (h : ∀ name, name ∈ names ↔ name ∈ others)
    (outline : Outline) : outline.removeExports names = outline.removeExports others := by
  apply entries_injective
  rw [entries_removeExports, entries_removeExports]
  refine List.filter_congr fun entry _ => ?_
  have hunion (name : String) : name ∈ names ↔ name ∈ others ∨ name ∈ others := by
    rw [h, or_self]
  rw [isKept_union hunion, Bool.and_self]

/-- Two removals are one of all the names. -/
theorem removeExports_removeExports {first second union : List String}
    (hunion : ∀ name, name ∈ union ↔ name ∈ first ∨ name ∈ second) (outline : Outline) :
    (outline.removeExports first).removeExports second = outline.removeExports union := by
  apply entries_injective
  rw [entries_removeExports, entries_removeExports, entries_removeExports, List.filter_filter]
  exact List.filter_congr fun entry _ => (isKept_union hunion entry).symm

theorem allBlocks_dropMarkers (outline : Outline) :
    (outline.dropMarkers names).allBlocks = outline.allBlocks := by
  induction outline with
  | nil => rfl
  | leaf line rest ih =>
    rw [dropMarkers]
    split <;> simp [allBlocks, ih]
  | block kind header method body rest _ ih => simp [dropMarkers, allBlocks, ih]

/-- A removal changes each block on its own. -/
theorem allBlocks_removeExports (outline : Outline) :
    (outline.removeExports names).allBlocks =
      outline.allBlocks.map (Block.removeExports names) := by
  induction outline with
  | nil => rfl
  | leaf line rest ih => simp [removeExports, allBlocks, ih]
  | block kind header method body rest ihbody ih =>
    rw [removeExports, allBlocks, allBlocks, List.map_cons, List.map_append, ih, ← ihbody]
    refine congrArg _ (congrArg (· ++ _) ?_)
    split
    · exact allBlocks_dropMarkers _
    · rfl

theorem leaves_dropMarkers (outline : Outline) :
    (outline.dropMarkers names).leaves =
      outline.leaves.filter fun line => (markedName? names line).isNone := by
  induction outline with
  | nil => rfl
  | leaf line rest ih =>
    rw [dropMarkers, leaves, List.filter_cons]
    cases markedName? names line with
    | none => simp [leaves, ih]
    | some name => simp [ih]
  | block kind header method body rest _ ih => simp [dropMarkers, leaves, ih]

theorem leaves_removeExports (outline : Outline) :
    (outline.removeExports names).leaves = outline.leaves := by
  induction outline with
  | nil => rfl
  | leaf line rest ih => simp [removeExports, leaves, ih]
  | block kind header method body rest _ ih => simp [removeExports, leaves, ih]

end Outline

namespace Block

variable {names : List String}

/-- A removal takes its markers out of a method and keeps the others in order. -/
theorem exportSites_removeExports {block : Block} (h : block.kind = .method) :
    (block.removeExports names).exportSites =
      block.exportSites.filter fun site => site.marker.name ∉ names := by
  simp only [exportSites, removeExports, methodName, h, if_true, Outline.leaves_dropMarkers,
    Outline.leaves_removeExports, List.filterMap_filter, List.filter_filterMap]
  congr 1
  funext line
  unfold Outline.markedName?
  cases ExportMarker.ofLine? line.text with
  | none => simp
  | some marker => by_cases hname : marker.name ∈ names <;> simp [Option.filter, hname]

/-- What a removal takes out of a method are its markers of the names. -/
theorem removals_eq {block : Block} (h : block.kind = .method) :
    block.removals names =
      (block.exportSites.filter fun site => site.marker.name ∈ names).map ExportSite.removed := by
  simp only [removals, exportSites, h, if_true, List.filter_filterMap, List.map_filterMap]
  congr 1
  funext line
  unfold Outline.markedName?
  cases ExportMarker.ofLine? line.text with
  | none => rfl
  | some marker =>
    by_cases hname : marker.name ∈ names <;> simp [Option.filter, hname, ExportSite.removed]

/-- The markers of a method are those of its lines. -/
theorem markers_eq {block : Block} (h : block.kind = .method) :
    block.markers.map (block.methodName, ·) =
      block.exportSites.map fun site => (site.method, site.marker) := by
  simp only [markers, exportSites, h, if_true, List.map_filterMap]
  congr 1
  funext line
  cases ExportMarker.ofLine? line.text <;> rfl

end Block

namespace Outline

variable {names : List String}

theorem kind_of_mem_methods {outline : Outline} {block : Block} (h : block ∈ outline.methods) :
    block.kind = .method := by
  simpa using (List.mem_filter.1 h).2

/-- The exports are the markers in methods. -/
theorem exports_eq_map (outline : Outline) :
    outline.exports = outline.exportSites.map fun site => (site.method, site.marker) := by
  rw [exports, exportSites, List.map_flatMap]
  exact List.flatMap_congr fun block hblock => Block.markers_eq (kind_of_mem_methods hblock)

/-- A block that is no method has nothing that a removal takes out. -/
theorem removed_eq_flatMap_methods (outline : Outline) :
    (outline.removalReport names).removed =
      outline.methods.flatMap (Block.removals names) := by
  change outline.allBlocks.flatMap (Block.removals names) = _
  rw [methods]
  induction outline.allBlocks with
  | nil => rfl
  | cons block rest ih =>
    rw [List.flatMap_cons, ih, List.filter_cons]
    by_cases hkind : block.kind = .method
    · simp [hkind]
    · simp [hkind, Block.removals]

/-- What a removal takes out are the markers of the names, in order. -/
theorem removed_eq_map (outline : Outline) :
    (outline.removalReport names).removed =
      (outline.exportSites.filter fun site => site.marker.name ∈ names).map
        ExportSite.removed := by
  rw [removed_eq_flatMap_methods, exportSites, List.filter_flatMap, List.map_flatMap]
  exact List.flatMap_congr fun block hblock => Block.removals_eq (kind_of_mem_methods hblock)

/-- The names that are missing from a removal are those that are not exported. -/
theorem missing_eq_filter (outline : Outline) :
    (outline.removalReport names).missing =
      names.filter fun name => name ∉ outline.exports.map (·.2.name) := by
  have hremoved : (outline.removalReport names).missing = names.filter fun name =>
      name ∉ (outline.removalReport names).removed.map (·.name) := rfl
  rw [hremoved, removed_eq_map, exports_eq_map]
  refine List.filter_congr fun name hname => ?_
  have hsame : name ∈ ((outline.exportSites.filter fun site => site.marker.name ∈ names).map
      ExportSite.removed).map (·.name) ↔ name ∈ (outline.exportSites.map fun site =>
        (site.method, site.marker)).map (·.2.name) := by
    rw [List.map_map, List.map_map, List.mem_map, List.mem_map]
    constructor
    · rintro ⟨site, hsite, rfl⟩
      exact ⟨site, (List.mem_filter.1 hsite).1, rfl⟩
    · rintro ⟨site, hsite, rfl⟩
      exact ⟨site, List.mem_filter.2 ⟨hsite, decide_eq_true hname⟩, rfl⟩
  rw [decide_eq_decide, hsame]

/-- A removal takes the markers of the names out of those in methods. -/
theorem exportSites_removeExports (outline : Outline) :
    (outline.removeExports names).exportSites =
      outline.exportSites.filter fun site => site.marker.name ∉ names := by
  have hmethods : (outline.removeExports names).methods =
      outline.methods.map (Block.removeExports names) := by
    rw [methods, allBlocks_removeExports, List.filter_map]
    rfl
  rw [exportSites, hmethods, List.flatMap_map, exportSites, List.filter_flatMap]
  exact List.flatMap_congr fun block hblock =>
    Block.exportSites_removeExports (kind_of_mem_methods hblock)

/-- A removal reports nothing where none of the names is exported. -/
theorem removed_eq_nil {outline : Outline}
    (h : ∀ entry ∈ outline.exports, entry.2.name ∉ names) :
    (outline.removalReport names).removed = [] := by
  rw [removed_eq_map, List.map_eq_nil_iff, List.filter_eq_nil_iff]
  intro site hsite
  have hentry : (site.method, site.marker) ∈ outline.exports := by
    rw [exports_eq_map]
    exact List.mem_map_of_mem hsite
  simpa using h _ hentry

/-- After a removal the other exports are left. -/
theorem exports_removeExports (outline : Outline) :
    (outline.removeExports names).exports =
      outline.exports.filter fun entry => entry.2.name ∉ names := by
  rw [exports_eq_map, exportSites_removeExports, exports_eq_map, List.filter_map]
  rfl

/-- Removals one after another are one removal of all the names. -/
theorem foldl_removeExports (steps : List (List String)) (outline : Outline) :
    steps.foldl (fun edited names => edited.removeExports names) outline =
      outline.removeExports steps.flatten := by
  induction steps generalizing outline with
  | nil =>
    apply entries_injective
    rw [entries_removeExports]
    refine (List.filter_eq_self.2 fun entry _ => ?_).symm
    match entry with
    | .enter .. => rfl
    | .leave => rfl
    | .leaf none line => rfl
    | .leaf (some _) line => simp [markedName_eq_none_iff]
  | cons names rest ih =>
    rw [List.foldl_cons, ih]
    exact removeExports_removeExports (by simp) outline

/-- Entries are taken out that are markers of the names in methods. -/
theorem isKept_eq_false_iff {entry : Entry} :
    entry.isKept names = false ↔ ∃ method line marker, entry = .leaf (some method) line ∧
      ExportMarker.ofLine? line.text = some marker ∧ marker.name ∈ names := by
  match entry with
  | .enter .. => simp
  | .leave => simp
  | .leaf none line => simp
  | .leaf (some method) line =>
    rw [Entry.isKept_leaf_some, markedName?]
    cases hmarker : ExportMarker.ofLine? line.text with
    | none => simp [hmarker]
    | some marker => simp [hmarker]

/-- A removal takes out of the methods the lines that are markers of the names, keeps all other
lines, blocks and headers as they are and in order, and reports the exports among the names and
the names that are not exported. Removals one after another, in any order, are one. -/
theorem removeExports_exact (names : List String) (outline : Outline) :
    (outline.removeExports names).entries = outline.entries.filter (Entry.isKept names) ∧
    (∀ entry : Entry, entry.isKept names = false ↔
      ∃ method line marker, entry = .leaf (some method) line ∧
        ExportMarker.ofLine? line.text = some marker ∧ marker.name ∈ names) ∧
    outline.exports = outline.exportSites.map (fun site => (site.method, site.marker)) ∧
    (outline.removalReport names).removed =
      (outline.exportSites.filter fun site => site.marker.name ∈ names).map
        (fun site => ⟨site.marker.name, site.method, site.line.number⟩) ∧
    (outline.removalReport names).missing =
      names.filter (fun name => name ∉ outline.exports.map (·.2.name)) ∧
    (outline.removeExports names).exports =
      outline.exports.filter (fun entry => entry.2.name ∉ names) ∧
    (∀ others, (outline.removeExports names).removeExports others =
        outline.removeExports (Text.nameSet (names ++ others)) ∧
      (outline.removeExports others).removeExports names =
        outline.removeExports (Text.nameSet (names ++ others))) ∧
    ∀ steps : List (List String),
      steps.foldl (fun edited step => edited.removeExports step) outline =
        outline.removeExports (Text.nameSet steps.flatten) := by
  refine ⟨entries_removeExports names outline, fun _ => isKept_eq_false_iff,
    exports_eq_map outline, removed_eq_map outline, missing_eq_filter outline,
    exports_removeExports outline, fun others => ⟨?_, ?_⟩, fun steps => ?_⟩
  · refine removeExports_removeExports (fun name => ?_) outline
    rw [Text.mem_nameSet, List.mem_append]
  · refine removeExports_removeExports (fun name => ?_) outline
    rw [Text.mem_nameSet, List.mem_append, or_comm]
  · rw [foldl_removeExports]
    refine removeExports_congr (fun name => ?_) outline
    rw [Text.mem_nameSet]

end Outline

end PluginBuild.Listing
