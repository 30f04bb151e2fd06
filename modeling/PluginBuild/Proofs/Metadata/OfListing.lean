import PluginBuild.Metadata.OfListing
import PluginBuild.Proofs.Listing.Apart
/-!
# What a module owes to the lines of its listing

The module that an outline declares depends on the declarations of its blocks and on what each
line says for itself (`Module.ofOutline_mapLines`). So comments that stand apart are no part of it
(`ofListing_blankComments`); others can be (`exists_comment_read`).
-/

namespace PluginBuild.Metadata

open Listing

/-- A change of lines after which each line says what it said. -/
structure KeepsWords (f : Line → Line) : Prop where
  marker : ∀ line, ExportMarker.ofLine? (f line).text = ExportMarker.ofLine? line.text
  override : ∀ line, overrideOfLine? (f line) = overrideOfLine? line
  typeOverride : ∀ line, typeOverrideOfLine? (f line) = typeOverrideOfLine? line
  custom : ∀ line, attributeOfLine? (f line).text = attributeOfLine? line.text
  version : ∀ line, versionOfLine? (f line) = versionOfLine? line

namespace KeepsWords

variable {f : Line → Line}

theorem methodOfBlock?_mapLines (hf : KeepsWords f) (block : Block) :
    methodOfBlock? (block.mapLines f) = methodOfBlock? block := by
  rw [methodOfBlock?, methodOfBlock?, Block.mapLines, Outline.leaves_mapLines,
    List.filterMap_map]
  refine congrArg (Option.map · block.method) (funext fun header => ?_)
  rw [show (overrideOfLine? ∘ f) = overrideOfLine? from funext hf.override]

theorem leafAttributes_mapLines (hf : KeepsWords f) (outline : Outline) :
    leafAttributes (outline.mapLines f) = leafAttributes outline := by
  rw [leafAttributes, leafAttributes, Outline.leaves_mapLines, List.filterMap_map]
  exact congrArg₂ List.filterMap (funext hf.custom) rfl

theorem typeOfBlock?_mapLines (hf : KeepsWords f) (scope : Scope) {block : Block}
    (h : block.KeepsDeclaration f) :
    typeOfBlock? scope (block.mapLines f) = typeOfBlock? scope block := by
  have hattributes : (block.body.mapLines f).leaves.filterMap (attributeOfLine? ·.text) =
      block.body.leaves.filterMap (attributeOfLine? ·.text) :=
    hf.leafAttributes_mapLines block.body
  have hoverrides : ((block.body.mapLines f).leaves.filter
        (attributeOfLine? ·.text = none)).filterMap typeOverrideOfLine? =
      (block.body.leaves.filter (attributeOfLine? ·.text = none)).filterMap
        typeOverrideOfLine? := by
    rw [Outline.leaves_mapLines, List.filter_map, List.filterMap_map,
      show (typeOverrideOfLine? ∘ f) = typeOverrideOfLine? from funext hf.typeOverride]
    refine congrArg (List.filterMap _) (List.filter_congr fun line _ => ?_)
    simp [hf.custom line]
  have hmethods : ((block.body.mapLines f).blocks.filter (·.kind = .method)).filterMap
        methodOfBlock? =
      (block.body.blocks.filter (·.kind = .method)).filterMap methodOfBlock? := by
    rw [Outline.blocks_mapLines, List.filter_map, List.filterMap_map]
    exact congrArg₂ List.filterMap (funext hf.methodOfBlock?_mapLines) rfl
  rw [typeOfBlock?, typeOfBlock?, h.declaration_eq]
  dsimp only [Block.mapLines]
  rw [hattributes, hoverrides, hmethods]

theorem assemblyOfBlock?_mapLines (hf : KeepsWords f) {header : Line} (body : Outline)
    (hheader : (f header).text = header.text) :
    assemblyOfBlock? (f header) (body.mapLines f) = assemblyOfBlock? header body := by
  have hversions : (body.mapLines f).leaves.filterMap versionOfLine? =
      body.leaves.filterMap versionOfLine? := by
    rw [Outline.leaves_mapLines, List.filterMap_map]
    exact congrArg₂ List.filterMap (funext hf.version) rfl
  rw [assemblyOfBlock?, assemblyOfBlock?, assemblyName?, assemblyName?, hheader, hversions]

/-- The header of a block names what it named. -/
theorem header_eq (kind : BlockKind) {header : Line} (hheader : (f header).text = header.text) :
    assemblyName? (f header) = assemblyName? header ∧
      namespaceName (f header) = namespaceName header ∧
      isNamespace kind (f header) = isNamespace kind header := by
  refine ⟨?_, ?_, ?_⟩
  · rw [assemblyName?, assemblyName?, hheader]
  · rw [namespaceName, namespaceName, hheader]
  · rw [isNamespace, isNamespace, Line.keyword, Line.keyword, hheader]

/-- The blocks of an outline that begins with a block. -/
theorem of_allBlocks_block {kind : BlockKind} {header : Line} {method : Option MethodHeader}
    {body rest : Outline}
    (h : ∀ block ∈ (Outline.block kind header method body rest).allBlocks,
      block.KeepsDeclaration f) :
    Block.KeepsDeclaration f ⟨kind, header, method, body⟩ ∧
      (∀ block ∈ body.allBlocks, block.KeepsDeclaration f) ∧
      ∀ block ∈ rest.allBlocks, block.KeepsDeclaration f := by
  rwa [Outline.allBlocks, List.forall_mem_cons, List.forall_mem_append] at h

theorem assembliesIn_mapLines (hf : KeepsWords f) {outline : Outline}
    (h : ∀ block ∈ outline.allBlocks, block.KeepsDeclaration f) :
    assembliesIn (outline.mapLines f) = assembliesIn outline := by
  induction outline with
  | nil => rfl
  | leaf line rest ih => exact ih h
  | block kind header method body rest ihbody ih =>
    obtain ⟨hblock, hbody, hrest⟩ := of_allBlocks_block h
    obtain ⟨-, -, hnamespace⟩ := header_eq kind hblock.header_text
    rw [Outline.mapLines, assembliesIn, assembliesIn, ihbody hbody, ih hrest, hnamespace,
      hf.assemblyOfBlock?_mapLines body hblock.header_text]

theorem blockAttributes_mapLines (hf : KeepsWords f) {outline : Outline}
    (h : ∀ block ∈ outline.allBlocks, block.KeepsDeclaration f) :
    blockAttributes (outline.mapLines f) = blockAttributes outline := by
  induction outline with
  | nil => rfl
  | leaf line rest ih => exact ih h
  | block kind header method body rest ihbody ih =>
    obtain ⟨hblock, hbody, hrest⟩ := of_allBlocks_block h
    obtain ⟨hassembly, -, hnamespace⟩ := header_eq kind hblock.header_text
    rw [Outline.mapLines, blockAttributes, blockAttributes, ihbody hbody, ih hrest, hnamespace,
      hassembly, hf.leafAttributes_mapLines]

theorem typesIn_mapLines (hf : KeepsWords f) {outline : Outline} (scope : Scope)
    (h : ∀ block ∈ outline.allBlocks, block.KeepsDeclaration f) :
    typesIn scope (outline.mapLines f) = typesIn scope outline := by
  induction outline generalizing scope with
  | nil => rfl
  | leaf line rest ih => exact ih scope h
  | block kind header method body rest ihbody ih =>
    obtain ⟨hblock, hbody, hrest⟩ := of_allBlocks_block h
    obtain ⟨-, hname, hnamespace⟩ := header_eq kind hblock.header_text
    have htype := hf.typeOfBlock?_mapLines scope hblock
    have hinside (scope : Scope) := ihbody scope hbody
    rw [Block.mapLines] at htype
    cases scope with
    | «namespace» outer =>
      rw [Outline.mapLines, typesIn, typesIn, ih _ hrest, hnamespace, hname]
      simp only [htype, hinside]
    | type outer =>
      rw [Outline.mapLines, typesIn, typesIn, ih _ hrest]
      simp only [htype, hinside]

/-- The module is the one that the declarations and the lines state. -/
theorem ofOutline_mapLines (hf : KeepsWords f) {outline : Outline}
    (h : ∀ block ∈ outline.allBlocks, block.KeepsDeclaration f) :
    Module.ofOutline (outline.mapLines f) = Module.ofOutline outline := by
  rw [Module.ofOutline, Module.ofOutline, hf.assembliesIn_mapLines h, hf.leafAttributes_mapLines,
    hf.blockAttributes_mapLines h, hf.typesIn_mapLines _ h]

end KeepsWords

/-! ### Comments -/

/-- A line of which no more than the first word is read states no override. -/
theorem overrideOfLine?_eq_none {line : Line} (h : Unread line.text) :
    overrideOfLine? line = none ∧ typeOverrideOfLine? line = none := by
  have hpiece := h.afterPiece?_trim ".override" (by simp [readPieces]) rfl
  constructor
  · rw [overrideOfLine?, Line.trimmed, hpiece, Option.bind_none]
  · rw [typeOverrideOfLine?, Line.trimmed, hpiece]
    rfl

theorem versionOfLine?_eq_none {line : Line} (h : Unread line.text) :
    versionOfLine? line = none := by
  have hpiece := h.afterPiece?_trim ".ver" (by simp [readPieces]) rfl
  rw [versionOfLine?, Line.trimmed, hpiece]
  rfl

theorem attributeOfLine?_eq_none {text : List Char} (h : Unread text) :
    attributeOfLine? text = none := by
  have hword : (tokenize text).head?.any (·.word = ".custom") = false := by
    cases htoken : (tokenize text).head? with
    | none => rfl
    | some token => simpa using h.word_ne token htoken
  rw [attributeOfLine?]
  dsimp only
  rw [hword]
  rfl

/-- Where comments are made blank that stand apart, each line says what it said. -/
theorem keepsWords_of_apart {f : Line → Line} (hf : ∀ line, Apart line.text (f line).text) :
    KeepsWords f where
  marker line := by
    rcases (hf line).unread with h | ⟨h, h'⟩
    · rw [h]
    · rw [h.ofLine?_eq_none, h'.ofLine?_eq_none]
  override line := by
    rcases (hf line).unread with h | ⟨h, h'⟩
    · rw [overrideOfLine?, overrideOfLine?, Line.trimmed, Line.trimmed, h]
    · rw [(overrideOfLine?_eq_none h).1, (overrideOfLine?_eq_none h').1]
  typeOverride line := by
    rcases (hf line).unread with h | ⟨h, h'⟩
    · rw [typeOverrideOfLine?, typeOverrideOfLine?, Line.trimmed, Line.trimmed, h]
    · rw [(overrideOfLine?_eq_none h).2, (overrideOfLine?_eq_none h').2]
  custom line := by
    rcases (hf line).unread with h | ⟨h, h'⟩
    · rw [h]
    · rw [attributeOfLine?_eq_none h, attributeOfLine?_eq_none h']
  version line := by
    rcases (hf line).unread with h | ⟨h, h'⟩
    · rw [versionOfLine?, versionOfLine?, Line.trimmed, Line.trimmed, h]
    · rw [versionOfLine?_eq_none h, versionOfLine?_eq_none h']

/-- A listing with comments outside of declarations only, each of which fills its line or stands
behind a first word of which no more is read, is accepted without them as well, with the same
exports and the same module. -/
theorem ofListing_blankComments {text : List Char} {outline : Outline}
    (h : Outline.ofText text = .ok outline)
    (hblocks : ∀ block ∈ outline.allBlocks, block.Plain text)
    (hlines : ∀ line ∈ outline.lines, Apart line.text (line.blanked text)) :
    ∃ uncommented, Outline.ofText (blankComments text) = .ok uncommented ∧
      uncommented.exports = outline.exports ∧
      Module.ofOutline uncommented = Module.ofOutline outline := by
  obtain ⟨f, hread, hapart, hdeclarations⟩ := ofText_blankComments h hblocks hlines
  have hwords := keepsWords_of_apart hapart
  exact ⟨_, hread, Outline.exports_mapLines hwords.marker outline,
    hwords.ofOutline_mapLines hdeclarations⟩

/-- A listing with comments that stand apart: some fill their lines, some stand behind braces and
an instruction. -/
def remarkedListing : List Char :=
  ("/* A sample,\n   with a type. */\n.class C\n\x7b // of C\n  // One method.\n" ++
    "  .method void M()\n  \x7b /* of M */\n    .export [1] as M\n    // .export [2] as N\n" ++
    "    ret // done \x7d\n  \x7d // end of M\n\x7d\n").toList

/-- The sample has the one export of the listing without comments. -/
theorem ofListing_blankComments_remarkedListing :
    ∃ outline uncommented, Outline.ofText remarkedListing = .ok outline ∧
      outline.exports = [("M", ⟨some 1, "M"⟩)] ∧
      Outline.ofText (blankComments remarkedListing) = .ok uncommented ∧
      uncommented.exports = outline.exports ∧
      Module.ofOutline uncommented = Module.ofOutline outline := by
  have hchecked : (Outline.ofText remarkedListing).map (fun outline =>
      decide ((∀ block ∈ outline.allBlocks, block.Plain remarkedListing) ∧
        (∀ line ∈ outline.lines, Apart line.text (line.blanked remarkedListing)) ∧
        outline.exports = [("M", ⟨some 1, "M"⟩)])) = .ok true := by
    decide +kernel
  obtain ⟨outline, hread, hdecided⟩ := exists_ok_of_map_eq_ok hchecked
  obtain ⟨hblocks, hlines, hexports⟩ := of_decide_eq_true hdecided
  obtain ⟨uncommented, hread', hsame⟩ := ofListing_blankComments hread hblocks hlines
  exact ⟨outline, uncommented, hread, hexports, hread', hsame⟩

/-- A listing with a comment behind an export marker. -/
def remarkedMarker : List Char :=
  (".method void M()\n\x7b\n  .export [1] as M /* entry */\n\x7d\n").toList

/-- A listing with a comment behind the version of its assembly. -/
def remarkedVersion : List Char :=
  (".assembly Sample\n\x7b\n  .ver 1:2:0:0 // first\n\x7d\n").toList

/-- A listing with a comment among the parameters of a method. -/
def remarkedParameter : List Char :=
  (".class C\n\x7b\n  .method void M(int32 a, // one, two\n    int32 b)\n  \x7b\n  \x7d\n" ++
    "\x7d\n").toList

/-- A listing with a comment between a header and the braces of its block. -/
def remarkedBlock : List Char :=
  (".class C \x7d\n/* again */\n\x7b \x7b\n\x7d\n").toList

/-- Comments that do not stand apart are read: as part of a name, of a version and of a parameter
list, and as what goes on with a declaration that has no block without them. -/
theorem exists_comment_read :
    ((Outline.ofText remarkedMarker).map (·.exports) = .ok [("M", ⟨some 1, "M /* entry */"⟩)] ∧
      (Outline.ofText (blankComments remarkedMarker)).map (·.exports) =
        .ok [("M", ⟨some 1, "M"⟩)]) ∧
    ((Module.ofListing remarkedVersion).map (·.assembly.version) = .ok (some "1.2.0.0 // first") ∧
      (Module.ofListing (blankComments remarkedVersion)).map (·.assembly.version) =
        .ok (some "1.2.0.0")) ∧
    ((Module.ofListing remarkedParameter).map (·.types.map (·.methods.map (·.params))) =
        .ok [[["int32", "", "two int32"]]] ∧
      (Module.ofListing (blankComments remarkedParameter)).map
        (·.types.map (·.methods.map (·.params))) = .ok [[["int32", "int32"]]]) ∧
    (Outline.ofText remarkedBlock).isOk = true ∧
      (Outline.ofText (blankComments remarkedBlock)).isOk = false := by
  refine ⟨⟨?_, ?_⟩, ⟨?_, ?_⟩, ⟨?_, ?_⟩, ?_, ?_⟩ <;> decide +kernel

end PluginBuild.Metadata
