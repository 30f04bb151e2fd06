import PluginBuild.Text.Cut
/-!
# Plugin kinds and architectures

The five contracts between a file manager and its plugins, and the two architectures that native
modules are built for.
-/

namespace PluginBuild

/-- A contract that a native module can serve. -/
inductive PluginKind
  | fileSystem
  | content
  | lister
  | packer
  | quickSearch
deriving DecidableEq

/-- The architecture of a native module. -/
inductive Architecture
  | x86
  | x64
deriving DecidableEq

namespace Architecture

/-- The name of an architecture. -/
def name : Architecture → String
  | .x86 => "x86"
  | .x64 => "x64"

/-- The architecture that a text names, or the text as it was compared. -/
def ofText (s : String) : Except String Architecture :=
  let key := Text.asciiLower (Text.trim s.toList)
  if key ∈ ["x86".toList, "32".toList, "win32".toList, "win-x86".toList] then .ok .x86
  else if key ∈ ["x64".toList, "64".toList, "amd64".toList, "win-x64".toList] then .ok .x64
  else .error (String.ofList key)

end Architecture

namespace PluginKind

/-- All kinds, in their order. -/
def all : List PluginKind := [.fileSystem, .content, .lister, .packer, .quickSearch]

/-- The place of a kind in the order. -/
def rank : PluginKind → Nat
  | .fileSystem => 0
  | .content => 1
  | .lister => 2
  | .packer => 3
  | .quickSearch => 4

/-- The name by which a declaration states a kind. -/
def name : PluginKind → String
  | .fileSystem => "FileSystem"
  | .content => "Content"
  | .lister => "Lister"
  | .packer => "Packer"
  | .quickSearch => "QuickSearch"

/-- The simple name of the interface with the members of a kind. -/
def interfaceName : PluginKind → String
  | .fileSystem => "IFsPlugin"
  | .content => "IContentPlugin"
  | .lister => "IListerPlugin"
  | .packer => "IPackerPlugin"
  | .quickSearch => "IQuickSearchPlugin"

/-- The simple name of the class that plugins of a kind derive from. -/
def baseClassName : PluginKind → String
  | .fileSystem => "FsPlugin"
  | .content => "ContentPlugin"
  | .lister => "ListerPlugin"
  | .packer => "PackerPlugin"
  | .quickSearch => "QuickSearchPlugin"

/-- The extension of native modules of a kind for 32 bits. -/
def baseExtension : PluginKind → String
  | .fileSystem => "wfx"
  | .content => "wdx"
  | .lister => "wlx"
  | .packer => "wcx"
  | .quickSearch => "dsx"

/-- The extension of native modules of a kind. -/
def extension (kind : PluginKind) : Architecture → String
  | .x86 => kind.baseExtension
  | .x64 => kind.baseExtension ++ "64"

/-- The kind that a text names in any case, or the text as it was compared. -/
def ofText (s : String) : Except String PluginKind :=
  let key := Text.trim s.toList
  match all.find? fun kind => Text.asciiLower kind.name.toList == Text.asciiLower key with
  | some kind => .ok kind
  | none => .error (String.ofList key)

end PluginKind

/-- What is wrong with a text that names no kind. -/
def unknownKindMessage (key : String) : String := "unknown plugin kind `" ++ key ++ "`"

/-- What is wrong with a text that names no architecture. -/
def unknownArchitectureMessage (key : String) : String := "unknown architecture `" ++ key ++ "`"

end PluginBuild
