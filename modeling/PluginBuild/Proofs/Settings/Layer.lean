import Mathlib.Tactic.ByContra
import PluginBuild.Settings.Load
import PluginBuild.Proofs.Files.Store
import PluginBuild.Proofs.Text.Blank
/-!
# Settings of several layers

Settings come from the document of a project and from one above it, and either may be missing. The
layers are merged first, then the defaults fill in what no layer gives, and only what comes of that
is checked (`Settings.load_layers`). So a value that no build could use does no harm in a layer
below one that gives another value.
-/

namespace PluginBuild

open Files (Path Store)

namespace SettingsLayer

/-! ### Merging -/

@[simp] theorem onTop_empty (layer : SettingsLayer) : layer.onTop empty = layer := by
  simp [onTop, empty]

@[simp] theorem empty_onTop (layer : SettingsLayer) : empty.onTop layer = layer := by
  simp [onTop, empty]

theorem onTop_assoc (upper layer lower : SettingsLayer) :
    (upper.onTop layer).onTop lower = upper.onTop (layer.onTop lower) := by
  simp [onTop, Option.or_assoc]

/-- A document without any text gives no setting. -/
theorem ofText?_nil : ofText? [] = some empty := by decide +kernel

/-! ### Documents -/

/-- The document of the project, which may be missing. -/
inductive ProjectDocument (files : Store) : Option (List Char) → Prop
  | missing (h : files.contains projectFile = false) : ProjectDocument files none
  | present {text : List Char} (h : files.readText projectFile = .ok text) :
    ProjectDocument files (some text)

/-- The document above that of the project. It is there if one is named. -/
inductive NamedDocument (files : Store) : Option Path → Option (List Char) → Prop
  | unnamed : NamedDocument files none none
  | present {path : Path} {text : List Char} (h : files.readText path = .ok text) :
    NamedDocument files (some path) (some text)

/-- A document that is there gives a layer. -/
def GivesLayer (document : Option (List Char)) (layer : Option SettingsLayer) : Prop :=
  Option.Rel (fun text layer => ofText? text = some layer) document layer

variable {files : Store} {project overlay : Option (List Char)}
  {lower upper : Option SettingsLayer}

theorem load_eq_ok {path : Path} {text : List Char} {layer : SettingsLayer}
    (hread : files.readText path = .ok text) (hlayer : ofText? text = some layer) :
    load files path = .ok layer := by
  rw [load, hread]
  simp only [hlayer]

theorem project_eq_ok (hproject : ProjectDocument files project)
    (hlower : GivesLayer project lower) :
    SettingsLayer.project files = .ok (lower.getD empty) := by
  cases hproject with
  | missing h =>
    cases hlower
    rw [SettingsLayer.project, h]
    rfl
  | present h =>
    cases hlower with
    | some hlayer =>
      rw [SettingsLayer.project, if_pos (Store.contains_of_readText h), load_eq_ok h hlayer]
      rfl

theorem named_eq_ok {path : Option Path} (hoverlay : NamedDocument files path overlay)
    (hupper : GivesLayer overlay upper) : named files path = .ok (upper.getD empty) := by
  cases hoverlay with
  | unnamed =>
    cases hupper
    rfl
  | present h =>
    cases hupper with
    | some hlayer =>
      rw [named, if_pos (Store.contains_of_readText h), load_eq_ok h hlayer]
      rfl

/-! ### Two layers -/

/-- The value that counts for a setting: that of the upper layer, else that of the lower one, else
the default. A layer that is missing gives none. -/
def chosen {α : Type} (setting : SettingsLayer → Option α) (upper lower : Option SettingsLayer)
    (default : α) : α :=
  match upper.bind setting, lower.bind setting with
  | some value, _ => value
  | none, some value => value
  | none, none => default

theorem chosen_eq {α : Type} (setting : SettingsLayer → Option α)
    (upper lower : Option SettingsLayer) (default : α) (hnone : setting empty = none) :
    chosen setting upper lower default =
      ((setting (upper.getD empty)).or (setting (lower.getD empty))).getD default := by
  have hmissing (layer : Option SettingsLayer) :
      setting (layer.getD empty) = layer.bind setting := by
    cases layer with
    | none => exact hnone
    | some layer => rfl
  rw [chosen, hmissing, hmissing]
  cases upper.bind setting with
  | some value => rfl
  | none =>
    cases lower.bind setting with
    | some value => rfl
    | none => rfl

end SettingsLayer

namespace Settings

open SettingsLayer

/-- The settings in which the values count that two layers give. A program that none of them gives
is looked for. -/
def ofLayers (upper lower : Option SettingsLayer) : Settings where
  reassembler := chosen (·.reassembler.map some) upper lower none
  disassembler := chosen (·.disassembler.map some) upper lower none
  sdkAssembly := chosen (·.sdkAssembly) upper lower "TcPluginBase"
  retryAttempts := chosen (·.retryAttempts) upper lower 5
  retryBackoff := chosen (·.retryBackoff) upper lower 100

theorem settings_onTop (upper lower : Option SettingsLayer) :
    ((upper.getD empty).onTop (lower.getD empty)).settings = ofLayers upper lower := by
  have hprogram (program : Option Path) : (program.map some).getD none = program := by
    cases program <;> rfl
  have hmap (a b : Option Path) : (a.map some).or (b.map some) = (a.or b).map some := by
    cases a <;> rfl
  unfold ofLayers
  rw [chosen_eq _ _ _ _ rfl, chosen_eq _ _ _ _ rfl, chosen_eq _ _ _ _ rfl, chosen_eq _ _ _ _ rfl,
    chosen_eq _ _ _ _ rfl, hmap, hmap, hprogram, hprogram]
  rfl

/-! ### Checking -/

/-- Settings that a build can use. -/
structure IsUsable (s : Settings) : Prop where
  attempts : 1 ≤ s.retryAttempts ∧ s.retryAttempts ≤ 20
  assembly : ∃ c ∈ s.sdkAssembly.toList, Text.isBlank c = false

/-- What is said of settings that no build can use. -/
def faults : List String :=
  ["output.retry_attempts must be between 1 and 20", "sdk.assembly must not be empty"]

/-- The check takes settings exactly as they are, or finds a fault. -/
theorem check_eq (s : Settings) :
    (s.IsUsable → s.check = .ok s) ∧
      (¬s.IsUsable → ∃ fault ∈ faults, s.check = .error (.settings fault)) := by
  have hblank : (Text.trim s.sdkAssembly.toList).isEmpty = true ↔
      ∀ c ∈ s.sdkAssembly.toList, Text.isBlank c = true := by
    rw [List.isEmpty_iff, Text.trim_eq_nil_iff]
  rw [check, maxRetryAttempts]
  constructor
  · rintro ⟨hattempts, c, hc, hnotBlank⟩
    have hnamed : ¬∀ c ∈ s.sdkAssembly.toList, Text.isBlank c = true := fun hall =>
      Bool.false_ne_true (hnotBlank.symm.trans (hall c hc))
    rw [if_neg (by omega), if_neg (mt hblank.1 hnamed)]
  · intro hunusable
    by_cases hattempts : s.retryAttempts < 1 ∨ 20 < s.retryAttempts
    · rw [if_pos hattempts]
      exact ⟨_, List.mem_cons_self, rfl⟩
    · have hassembly : ∀ c ∈ s.sdkAssembly.toList, Text.isBlank c = true := by
        intro c hc
        by_contra hnotBlank
        exact hunusable ⟨by omega, c, hc, Bool.eq_false_iff.2 hnotBlank⟩
      rw [if_neg hattempts, if_pos (hblank.2 hassembly)]
      exact ⟨_, List.mem_cons_of_mem _ List.mem_cons_self, rfl⟩

/-- What two documents make of the settings is checked, and not what one of them makes. -/
theorem load_eq_check {files : Store} {explicit environment : Option Path}
    {project overlay : Option (List Char)} {lower upper : Option SettingsLayer}
    (hproject : ProjectDocument files project)
    (hoverlay : NamedDocument files (explicit.or environment) overlay)
    (hlower : GivesLayer project lower) (hupper : GivesLayer overlay upper) :
    load files explicit environment = (ofLayers upper lower).check := by
  rw [load, project_eq_ok hproject hlower, named_eq_ok hoverlay hupper, ← settings_onTop]
  rfl

/-- A document of its own gives the settings of a layer that nothing is merged with. -/
theorem ofText_of_ofText? {text : List Char} {layer : SettingsLayer}
    (h : ofText? text = some layer) :
    ofText text = (ofLayers (some layer) none).check ∧
      ofText text = (ofLayers none (some layer)).check := by
  rw [← settings_onTop, ← settings_onTop, ofText, h]
  simp

theorem exists_layer_of_ofText {text : List Char} (h : ofText text ≠ .error .toml) :
    ∃ layer, ofText? text = some layer := by
  rw [ofText] at h
  cases hlayer : ofText? text with
  | none => simp [hlayer] at h
  | some layer => exact ⟨layer, rfl⟩

/-- Settings are loaded in layers. For each of them the value counts that the overlay gives, which
is the explicit document or else that of the environment, then the value of the project's document,
then the default; loading fails exactly where what comes of this cannot be used. Merging does not
depend on how layers are grouped, the document without text is neutral for it, and a single
document is loaded as it is read by itself. -/
theorem load_layers (files : Store) (explicit environment : Option Path) :
    (∀ {project overlay : Option (List Char)} {lower upper : Option SettingsLayer},
      ProjectDocument files project → NamedDocument files (explicit.or environment) overlay →
      GivesLayer project lower → GivesLayer overlay upper →
        (load files explicit environment = .ok (ofLayers upper lower) ↔
          (ofLayers upper lower).IsUsable) ∧
        ((∃ fault ∈ faults, load files explicit environment = .error (.settings fault)) ↔
          ¬(ofLayers upper lower).IsUsable)) ∧
      ((∀ upper layer lower : SettingsLayer,
          (upper.onTop layer).onTop lower = upper.onTop (layer.onTop lower)) ∧
        ofText? [] = some empty ∧
        ∀ layer : SettingsLayer, empty.onTop layer = layer ∧ layer.onTop empty = layer) ∧
      ∀ {text : List Char}, ofText text ≠ .error .toml →
        (ProjectDocument files (some text) → explicit.or environment = none →
          load files explicit environment = ofText text) ∧
        (ProjectDocument files none → NamedDocument files (explicit.or environment) (some text) →
          load files explicit environment = ofText text) := by
  refine ⟨fun hproject hoverlay hlower hupper => ?_,
    ⟨onTop_assoc, ofText?_nil, fun layer => ⟨empty_onTop layer, onTop_empty layer⟩⟩,
    fun {text} htext => ?_⟩
  · rw [load_eq_check hproject hoverlay hlower hupper]
    obtain ⟨husable, hunusable⟩ := check_eq (ofLayers _ _)
    refine ⟨⟨fun h => ?_, husable⟩, ⟨?_, hunusable⟩⟩
    · by_contra hnot
      obtain ⟨fault, -, hfault⟩ := hunusable hnot
      rw [h] at hfault
      cases hfault
    · rintro ⟨fault, -, hfault⟩ h
      rw [husable h] at hfault
      cases hfault
  · obtain ⟨layer, hlayer⟩ := exists_layer_of_ofText htext
    obtain ⟨hupper, hlower⟩ := ofText_of_ofText? hlayer
    refine ⟨fun hproject hnone => ?_, fun hproject hoverlay => ?_⟩
    · rw [hlower]
      exact load_eq_check hproject (hnone ▸ .unnamed) (.some hlayer) .none
    · rw [hupper]
      exact load_eq_check hproject hoverlay .none (.some hlayer)

/-- A project that sets a number of attempts that no build could use, beside a document that sets
another number. -/
def layeredFiles : Store where
  workingDirectory := ["work"]
  nodes :=
    [(["work"], .directory),
      (["work", "plugforge.toml"],
        .file (.ofText "[sdk]\nassembly = \"Base\"\n[output]\nretry_attempts = 0\n".toList) false),
      (["work", "more.toml"], .file (.ofText "[output]\nretry_attempts = 9\n".toList) false)]

theorem load_layers_layeredFiles :
    let project := "[sdk]\nassembly = \"Base\"\n[output]\nretry_attempts = 0\n".toList
    let overlay := "[output]\nretry_attempts = 9\n".toList
    (ProjectDocument layeredFiles (some project) ∧
      NamedDocument layeredFiles (some ⟨"more.toml"⟩) (some overlay) ∧
      GivesLayer (some project) (some ⟨none, none, some "Base", some 0, none⟩) ∧
      GivesLayer (some overlay) (some ⟨none, none, none, some 9, none⟩) ∧
      ofText project ≠ .error .toml) ∧
      load layeredFiles (some ⟨"more.toml"⟩) none = .ok ⟨none, none, "Base", 9, 100⟩ ∧
      load layeredFiles none none = ofText project ∧
      ∃ fault ∈ faults, load layeredFiles none none = .error (.settings fault) := by
  intro project overlay
  have hproject : ProjectDocument layeredFiles (some project) := .present rfl
  have hoverlay : NamedDocument layeredFiles (some ⟨"more.toml"⟩) (some overlay) := .present rfl
  have hlayer : ofText? project = some ⟨none, none, some "Base", some 0, none⟩ := by decide +kernel
  have hlower : GivesLayer (some project) (some ⟨none, none, some "Base", some 0, none⟩) :=
    .some hlayer
  have hupper : GivesLayer (some overlay) (some ⟨none, none, none, some 9, none⟩) :=
    .some (by decide +kernel)
  have hread : ofText project ≠ .error .toml := by
    rw [(ofText_of_ofText? hlayer).1]
    exact nofun
  obtain ⟨hboth, -, -⟩ := load_layers layeredFiles (some ⟨"more.toml"⟩) none
  obtain ⟨hproject', -, hsingle⟩ := load_layers layeredFiles none none
  refine ⟨⟨hproject, hoverlay, hlower, hupper, hread⟩, ?_, ?_, ?_⟩
  · exact (hboth hproject hoverlay hlower hupper).1.2 ⟨by decide, 'B', by decide, by decide +kernel⟩
  · exact (hsingle hread).1 hproject rfl
  · exact (hproject' hproject .unnamed hlower .none).2.2 fun h => absurd h.attempts.1 (by decide)

end Settings

end PluginBuild
