import PluginBuild.Metadata.Model
import PluginBuild.Plugin.Kind
import PluginBuild.Text.LowerCase
/-!
# Install manifests

The file in a package by which the host installs the plugin: a heading and one line for every key.
-/

namespace PluginBuild.Package

/-- What a manifest states of a plugin. -/
structure Manifest where
  kind : PluginKind
  /-- The name of the plugin and of the directory it is installed in. -/
  name : String
  description : String
  version : String
  /-- The extension of archives that a packer is for. -/
  defaultExtension : Option String
deriving DecidableEq

namespace Manifest

/-- The name of the manifest in a package. -/
def fileName : String := "pluginst.inf"

/-- The version of a plugin whose module states none. -/
def defaultVersion : String := "1.0"

/-- The manifest of a module. What the module does not say is made up from the name and the kind. -/
def ofModule (kind : PluginKind) (name : String) (module : Metadata.Module)
    (defaultExtension : Option String) : Manifest :=
  { kind, name
    description := module.description?.getD (name ++ " " ++ kind.name ++ " plugin")
    version := module.fileVersion?.getD defaultVersion
    defaultExtension }

/-- The extension of archives, which is the name in lower case unless it is given. -/
def archiveExtension (m : Manifest) : String := m.defaultExtension.getD (Text.lower m.name)

/-- The keys of a manifest with their values, where `file` is the module to install. -/
def entries (m : Manifest) (file : String) : List (String × String) :=
  [("type", m.kind.extension .x86), ("file", file), ("description", m.description),
    ("defaultdir", m.name), ("version", m.version)] ++
    if m.kind = .packer then [("defaultextension", m.archiveExtension)] else []

/-- The line of a key. -/
def line (entry : String × String) : String := entry.1 ++ "=" ++ entry.2 ++ "\r\n"

/-- The text of a manifest. -/
def text (m : Manifest) (file : String) : String :=
  "[plugininstall]\r\n" ++ String.join ((m.entries file).map line)

end Manifest

end PluginBuild.Package
