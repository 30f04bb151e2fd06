import PluginBuild.Files.Store
import PluginBuild.Settings.Layer
/-!
# Loading settings

The settings of the project in the working directory, under those of a document that is named
explicitly or else by the environment.
-/

namespace PluginBuild

open Files (Path Store)

namespace SettingsLayer

/-- The layer that a file gives. -/
def load (files : Store) (path : Path) : Except Error SettingsLayer :=
  match files.readText path with
  | .error failure => .error (.files failure)
  | .ok text =>
    match ofText? text with
    | none => .error (.settings ("invalid config " ++ path.quoted))
    | some layer => .ok layer

/-- The file with the settings of a project. -/
def projectFile : Path := ⟨"plugforge.toml"⟩

/-- The layer of the project, if it has one. -/
def project (files : Store) : Except Error SettingsLayer :=
  if files.contains projectFile then load files projectFile else .ok empty

/-- The layer of a document that is named, which has to be there. -/
def named (files : Store) : Option Path → Except Error SettingsLayer
  | none => .ok empty
  | some path =>
    if files.contains path then load files path
    else .error (.settings ("config file not found: " ++ path.quoted))

end SettingsLayer

/-- The settings of a build. An explicit document counts before that of the environment. -/
def Settings.load (files : Store) (explicit environment : Option Path) : Except Error Settings := do
  let lower ← SettingsLayer.project files
  let upper ← SettingsLayer.named files (explicit.or environment)
  (upper.onTop lower).settings.check

end PluginBuild
