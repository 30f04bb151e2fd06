import PluginBuild.Build.Run
import PluginBuild.Proofs.Package.Build
/-!
# What native modules are made of

The trimmed listings of a build are written before the first native module is made, to files that
are named for architectures. So the listing that a call is given is that of its own template unless
a later template is for the same architecture, and the module that is packed first is what the first
call made unless another template is for its architecture. Both hold for tools that change no other
file when they make a module.
-/

namespace PluginBuild

open Files (Path Store Content)
open Metadata (Module)

/-- Making a native module changes no file that is there but the one that it makes. -/
def Toolchain.KeepsOthers (tools : Toolchain) : Prop :=
  ∀ (w : World) (source output : Path) (resource : Option Path) (architecture : Architecture)
    (p : Path) (content : Content),
    w.files.read p = .ok content → w.files.locate p ≠ w.files.locate output →
      (w.after (.reassemble source output resource architecture)
        (tools w (.reassemble source output resource architecture))).files.read p = .ok content

/-! ## Names of files -/

/-- How the file of a trimmed listing is named. -/
def Architecture.listingName (a : Architecture) : List Char :=
  "wrapper-".toList ++ a.name.toList ++ ".trimmed.il".toList

/-- How the file of a native module ends. -/
def PluginKind.ending (kind : PluginKind) (a : Architecture) : List Char :=
  '.' :: (kind.extension a).toList

theorem Template.hasEnding_trimmedPath (work : Path) (t : Template) :
    (t.trimmedPath work).HasEnding t.architecture.listingName := by
  have hname : (⟨t.stem ++ ".trimmed.il"⟩ : Path).HasEnding t.architecture.listingName := by
    refine ⟨?_, ?_, ?_⟩
    · simp only [Template.stem, String.toList_append]
      exact List.suffix_refl _
    · cases t.architecture <;> decide
    · cases t.architecture <;> decide
  exact hname.join work

theorem Preparation.hasEnding_moduleName (p : Preparation) (a : Architecture) :
    (⟨p.name ++ "." ++ p.analysis.decision.kind.extension a⟩ : Path).HasEnding
      (p.analysis.decision.kind.ending a) := by
  refine ⟨?_, ?_, ?_⟩
  · simp only [String.toList_append, List.append_assoc]
    exact List.suffix_append _ _
  · cases p.analysis.decision.kind <;> cases a <;> decide
  · cases p.analysis.decision.kind <;> cases a <;> decide

theorem Preparation.hasEnding_outputPath (p : Preparation) (work : Path) (a : Architecture) :
    (p.outputPath work a).HasEnding (p.analysis.decision.kind.ending a) :=
  (p.hasEnding_moduleName a).join work

theorem Package.hasEnding_archiveName (name : String) (runtime : Option String) :
    (⟨Package.archiveName name runtime⟩ : Path).HasEnding ".zip".toList := by
  refine ⟨?_, by decide, by decide⟩
  unfold Package.archiveName
  split <;> simp only [String.toList_append] <;> exact List.suffix_append _ _

section Apart

variable {s : Store} {location : Files.Location} {work : Path}

/-- Trimmed listings for two architectures are at two locations. -/
theorem Template.locate_trimmedPath_ne {t t' : Template} (h : t.architecture ≠ t'.architecture)
    (hl : s.locate (t.trimmedPath work) = .ok location) :
    s.locate (t.trimmedPath work) ≠ s.locate (t'.trimmedPath work) := by
  have happart : ∀ a b : Architecture, a ≠ b → ¬a.listingName <:+ b.listingName := by
    intro a b
    cases a <;> cases b <;> decide
  exact Store.locate_ne_locate (t.hasEnding_trimmedPath work) (t'.hasEnding_trimmedPath work)
    (happart _ _ h) (happart _ _ h.symm) hl

/-- No trimmed listing is where a native module is made. -/
theorem Template.locate_trimmedPath_ne_outputPath {t : Template} (p : Preparation)
    (a : Architecture) (hl : s.locate (t.trimmedPath work) = .ok location) :
    s.locate (t.trimmedPath work) ≠ s.locate (p.outputPath work a) := by
  have happart : ∀ (a b : Architecture) (kind : PluginKind),
      ¬a.listingName <:+ kind.ending b ∧ ¬kind.ending b <:+ a.listingName := by
    intro a b kind
    cases a <;> cases b <;> cases kind <;> decide
  obtain ⟨h, h'⟩ := happart t.architecture a p.analysis.decision.kind
  exact Store.locate_ne_locate (t.hasEnding_trimmedPath work) (p.hasEnding_outputPath work a) h h'
    hl

/-- Native modules for two architectures are made at two locations. -/
theorem Preparation.locate_outputPath_ne {p : Preparation} {a b : Architecture} (h : a ≠ b)
    (hl : s.locate (p.outputPath work a) = .ok location) :
    s.locate (p.outputPath work a) ≠ s.locate (p.outputPath work b) := by
  have happart : ∀ (a b : Architecture) (kind : PluginKind), a ≠ b →
      ¬kind.ending a <:+ kind.ending b := by
    intro a b kind
    cases a <;> cases b <;> cases kind <;> decide
  exact Store.locate_ne_locate (p.hasEnding_outputPath work a) (p.hasEnding_outputPath work b)
    (happart a b _ h) (happart b a _ h.symm) hl

/-- No native module is made where the package is built. -/
theorem Preparation.locate_outputPath_ne_archive {p : Preparation} {a : Architecture}
    (runtime : Option String) (hl : s.locate (p.outputPath work a) = .ok location) :
    s.locate (p.outputPath work a) ≠
      s.locate (work.join ⟨Package.archiveName p.name runtime⟩) := by
  have happart : ∀ (a : Architecture) (kind : PluginKind),
      ¬kind.ending a <:+ ".zip".toList ∧ ¬".zip".toList <:+ kind.ending a := by
    intro a kind
    cases a <;> cases kind <;> decide
  obtain ⟨h, h'⟩ := happart a p.analysis.decision.kind
  exact Store.locate_ne_locate (p.hasEnding_outputPath work a)
    ((Package.hasEnding_archiveName p.name runtime).join work) h h' hl

end Apart

/-! ## Reading templates -/

/-- The text of a template in a world: what it holds if it is a listing, or else the listing that
disassembling it gives. -/
def Template.Yields (tools : Toolchain) (work : Path) (t : Template) (w : World)
    (text : List Char) : Prop :=
  if t.isListing then w.files.readText t.path = .ok text
  else (tools w (t.disassembleCall work)).result = .ok text

namespace BuildRequest

variable {request : BuildRequest} {settings : Settings} {tools : Toolchain} {work : Path}
  {w w' : World} {p : Preparation}

theorem outline_of_gives_readOutline {text : List Char} {outline : Listing.Outline}
    (h : Gives (readOutline text) w outline w') : Listing.Outline.ofText text = .ok outline := by
  unfold readOutline at h
  split at h
  · rename_i read hread
    rw [hread, (Gives.pure_iff.1 h).1]
  · exact absurd h (by simp)

theorem readText_of_gives_readInput {path : Path} {text : List Char}
    (h : Gives (readInput path) w text w') : w.files.readText path = .ok text := by
  unfold readInput at h
  simp only [Gives.bind_iff, Gives.ask_iff, Gives.ite_iff, Gives.throw_iff, false_and,
    exists_false, and_false, false_or, Gives.onFiles_iff, Gives.query_iff] at h
  obtain ⟨_, _, ⟨rfl, rfl⟩, -, _, ⟨hread, -⟩, -⟩ := h
  exact hread

/-- A template that is kept is kept with the outline of its own text. -/
theorem exists_of_gives_readTemplate {t : Template} {index : Nat} {m : ReadModule}
    (h : Gives (readTemplate tools work (t, index)) w (some m) w') :
    m.template = t ∧ ∃ text, t.Yields tools work w text ∧
      Listing.Outline.ofText text = .ok m.outline := by
  unfold readTemplate at h
  simp only [Gives.ite_iff, Gives.bind_iff, Gives.pure_iff, Gives.ask_iff, Gives.call_iff] at h
  rcases h with ⟨hlisting, text, _, hread, outline, _, houtline, heq, rfl⟩ |
    ⟨hlisting, _, _, ⟨rfl, rfl⟩, ⟨-, heq, -⟩ | ⟨-, text, _, hcall, outline, _, houtline, heq, rfl⟩⟩
  · cases heq
    refine ⟨rfl, text, ?_, outline_of_gives_readOutline houtline⟩
    rw [Template.Yields, if_pos hlisting]
    exact readText_of_gives_readInput hread
  · cases heq
  · cases heq
    refine ⟨rfl, text, ?_, outline_of_gives_readOutline houtline⟩
    rw [Template.Yields, if_neg hlisting]
    exact hcall.1

/-- The build reads `text` as the listing of the template `t`, after it has kept `number` others. -/
def Reads (request : BuildRequest) (settings : Settings) (tools : Toolchain) (work : Path)
    (w : World) (number : Nat) (t : Template) (text : List Char) : Prop :=
  ∃ (assembly : Module × Analysis) (analysed : World) (index : Nat) (kept : List ReadModule)
    (now : World),
    Gives (request.analyse settings tools work) w assembly analysed ∧
    request.templates[index]? = some t ∧
    Gives ((request.templates.zipIdx.take index).filterMapM (readTemplate tools work)) analysed
      kept now ∧
    kept.length = number ∧ t.Yields tools work now text

/-- Every native module that is kept has the outline of the text that was read for it. -/
theorem exists_reads_of_gives_prepare (h : Gives (request.prepare settings tools work) w p w')
    {before after : List ReadModule} {m : ReadModule} (hkept : p.kept = before ++ m :: after) :
    ∃ text, request.Reads settings tools work w before.length m.template text ∧
      Listing.Outline.ofText text = .ok m.outline := by
  unfold prepare at h
  simp only [Gives.bind_iff, Gives.checkpoint_iff, Gives.pure_iff] at h
  obtain ⟨assembly, analysed, hanalyse, kept, _, hread, -, -, -, rfl, -⟩ := h
  rw [show kept = before ++ m :: after from hkept] at hread
  obtain ⟨front, ⟨t, index⟩, back, now, _, hsplit, hfront, hm⟩ := Gives.exists_of_filterMapM hread
  obtain ⟨rfl, text, hyields, houtline⟩ := exists_of_gives_readTemplate hm
  -- The numbers that templates are read with are their places in the request.
  have hindex : request.templates[front.length]? = some m.template ∧
      request.templates.zipIdx.take front.length = front := by
    refine ⟨?_, by rw [hsplit, List.take_left]⟩
    have hat : request.templates.zipIdx[front.length]? = some (m.template, index) := by
      rw [hsplit, List.getElem?_append_right (Nat.le_refl _), Nat.sub_self, List.getElem?_cons_zero]
    simp only [List.getElem?_zipIdx, Option.map_eq_some_iff] at hat
    obtain ⟨_, hat, heq⟩ := hat
    rw [hat, (Prod.mk.inj heq).1]
  refine ⟨text, ⟨assembly, analysed, front.length, before, now, hanalyse, hindex.1, ?_, rfl,
    hyields⟩, houtline⟩
  rw [hindex.2]
  exact hfront

/-- The first template is kept. -/
theorem head?_kept_of_gives_prepare (h : Gives (request.prepare settings tools work) w p w')
    {m : ReadModule} {rest : List ReadModule} (hkept : p.kept = m :: rest) :
    request.templates.head? = some m.template := by
  unfold prepare at h
  simp only [Gives.bind_iff, Gives.checkpoint_iff, Gives.pure_iff] at h
  obtain ⟨_, analysed, -, kept, _, hread, _, _, -, rfl, -⟩ := h
  rw [show kept = m :: rest from hkept] at hread
  cases htemplates : request.templates with
  | nil => simp [htemplates] at hread
  | cons t others =>
    rw [htemplates, List.zipIdx_cons, List.filterMapM_cons] at hread
    obtain ⟨first, _, hfirst, hread⟩ := Gives.bind_iff.1 hread
    rcases first with _ | first
    · -- Only a template after the first can be passed over.
      simp [readTemplate] at hfirst
    · simp only [Gives.bind_iff, Gives.pure_iff] at hread
      obtain ⟨_, _, -, heq, -⟩ := hread
      rw [(List.cons.inj heq).1, (exists_of_gives_readTemplate hfirst).1, List.head?_cons]

end BuildRequest

/-! ## Writing trimmed listings -/

/-- What is written for a native module. -/
def ReadModule.written (d : Decision) (work : Path) (m : ReadModule) : WrittenModule :=
  ⟨m.template, m.template.trimmedPath work, (d.trimOutline m.outline).2⟩

/-- The trimmed listing of a native module. -/
def ReadModule.trimmedText (d : Decision) (m : ReadModule) : List Char :=
  (d.trimOutline m.outline).1.text

/-- The trimmed listing of a native module is what trimming its own text gives. -/
theorem ReadModule.trim_eq_ok {m : ReadModule} {text : List Char} (d : Decision) (work : Path)
    (h : Listing.Outline.ofText text = .ok m.outline) :
    d.trim text = .ok (m.trimmedText d, (m.written d work).removal) := by
  rw [Decision.trim, h]
  rfl

namespace BuildRequest

variable {tools : Toolchain} {work : Path} {w w' : World} {p : Preparation} {d : Decision}

theorem gives_writeTrimmed_iff {m : ReadModule} {x : WrittenModule} :
    Gives (writeTrimmed d work m) w x w' ↔ x = m.written d work ∧
      ∃ files, w.files.write (m.template.trimmedPath work) (.ofText (m.trimmedText d)) = .ok files ∧
        w' = { w with files } := by
  unfold writeTrimmed
  simp only [Gives.bind_iff, Gives.onFiles_iff, Gives.change_iff, Gives.pure_iff]
  constructor
  · rintro ⟨_, _, ⟨files, hwrite, rfl⟩, rfl, rfl⟩
    exact ⟨rfl, files, hwrite, rfl⟩
  · rintro ⟨rfl, files, hwrite, rfl⟩
    exact ⟨⟨⟩, _, ⟨files, hwrite, rfl⟩, rfl, rfl⟩

theorem eq_map_of_gives_writeKept {written : List WrittenModule}
    (h : Gives (writeKept work p) w written w') :
    written = p.kept.map (·.written p.analysis.decision work) ∧
      Gives (p.kept.mapM (writeTrimmed p.analysis.decision work)) w written w' := by
  unfold writeKept at h
  simp only [Gives.bind_iff, Gives.checkpoint_iff, Gives.pure_iff] at h
  obtain ⟨_, _, hwrite, -, _, ⟨-, rfl⟩, rfl, rfl⟩ := h
  exact ⟨Gives.mapM_eq_map (fun m t x t' hx => (gives_writeTrimmed_iff.1 hx).1) hwrite, hwrite⟩

/-- Once all trimmed listings have been written, the file of one holds its text unless a later one
is for the same architecture. -/
theorem read_trimmedPath_of_gives_mapM {before after : List ReadModule} {m : ReadModule}
    {written : List WrittenModule}
    (h : Gives ((before ++ m :: after).mapM (writeTrimmed d work)) w written w')
    (hafter : ∀ x ∈ after, x.template.architecture ≠ m.template.architecture) :
    w'.files.read (m.template.trimmedPath work) = .ok (.ofText (m.trimmedText d)) := by
  obtain ⟨_, back, t, -, hback, -⟩ := Gives.mapM_append_iff.1 h
  obtain ⟨_, rest, u, hm, hrest, -⟩ := Gives.mapM_cons_iff.1 hback
  obtain ⟨-, files, hwrite, rfl⟩ := gives_writeTrimmed_iff.1 hm
  -- The text stands once it is written; what is written after it goes to other locations.
  refine Gives.mapM_induct
    (P := fun t : World => t.files.read (m.template.trimmedPath work) =
      .ok (.ofText (m.trimmedText d)))
    hrest (fun x hx t y t' hy hr => ?_) (Store.read_write hwrite)
  obtain ⟨-, files', hwrite', rfl⟩ := gives_writeTrimmed_iff.1 hy
  obtain ⟨location, executable, hl, -⟩ := Store.read_eq_ok_iff.1 hr
  exact Store.read_write_of_locate_ne hwrite' hr
    (Template.locate_trimmedPath_ne (hafter x hx).symm hl)

/-! ## Making native modules -/

theorem gives_reassemble_iff {m : WrittenModule} {x : Package.NativeModule} :
    Gives (reassemble tools work p m) w x w' ↔
      x = ⟨m.template.architecture, p.outputPath work m.template.architecture⟩ ∧
        (tools w (reassembleCall work p m w.files)).result.isOk ∧
        w' = w.after (reassembleCall work p m w.files)
          (tools w (reassembleCall work p m w.files)) := by
  unfold reassemble
  simp only [Gives.bind_iff, Gives.ask_iff, Gives.call_iff, Gives.pure_iff]
  constructor
  · rintro ⟨_, _, ⟨rfl, rfl⟩, text, _, ⟨hcall, rfl⟩, rfl, rfl⟩
    exact ⟨rfl, by rw [hcall]; rfl, rfl⟩
  · rintro ⟨rfl, hcall, rfl⟩
    rcases hresult : (tools w (reassembleCall work p m w.files)).result with _ | text
    · rw [hresult] at hcall
      cases hcall
    · exact ⟨_, w, ⟨rfl, rfl⟩, text, _, ⟨hresult, rfl⟩, rfl, rfl⟩

/-- Making native modules keeps a file that no path of them leads to. -/
theorem read_of_gives_mapM_reassemble (htools : tools.KeepsOthers)
    {modules : List WrittenModule} {made : List Package.NativeModule} {path : Path}
    {content : Content} (h : Gives (modules.mapM (reassemble tools work p)) w made w')
    (happart : ∀ m ∈ modules, ∀ (s : Store) (location : Files.Location),
      s.locate path = .ok location →
        s.locate path ≠ s.locate (p.outputPath work m.template.architecture))
    (hr : w.files.read path = .ok content) : w'.files.read path = .ok content := by
  refine Gives.mapM_induct (P := fun now : World => now.files.read path = .ok content)
    h (fun m hm now x now' hx hr => ?_) hr
  obtain ⟨-, -, rfl⟩ := gives_reassemble_iff.1 hx
  obtain ⟨location, executable, hl, -⟩ := Store.read_eq_ok_iff.1 hr
  exact htools now _ _ _ _ path content hr (happart m hm now.files location hl)

end BuildRequest

end PluginBuild
