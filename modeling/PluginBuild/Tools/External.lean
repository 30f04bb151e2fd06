import PluginBuild.Settings.Layer
import PluginBuild.Tools.Command
/-!
# External tools

The programs that disassemble modules and reassemble listings. The settings say where they are, or
else the directories that are searched for programs.
-/

namespace PluginBuild

open Files (Path Store)

/-- A tool that a build needs. -/
inductive Tool
  | reassembler
  | disassembler
deriving DecidableEq

namespace Tool

/-- The name of the program. -/
def name : Tool → String
  | reassembler => "ilasm"
  | disassembler => "ildasm"

/-- The program that the settings give. -/
def configured : Tool → Settings → Option Path
  | reassembler, settings => settings.reassembler
  | disassembler, settings => settings.disassembler

/-- Whether a path leads to a file that can be run. -/
def isProgram (files : Store) (path : Path) : Bool :=
  match files.find path with
  | .ok (.file _ executable) => executable
  | _ => false

/-- Whether the first name of a path is that of the home of the user, where no tools are. -/
def isAtHome (path : Path) : Bool := path.segments.head? = some "~"

/-- The first program of a name in the directories of a search path. -/
def search? (files : Store) (searchPath : String) (name : String) : Option Path :=
  let directories : List Path :=
    (searchPath.toList.splitOn ':').map fun directory => ⟨String.ofList directory⟩
  ((directories.filter (!isAtHome ·)).map (·.join ⟨name⟩)).find? (isProgram files)

/-- The program of a tool. One that the settings give has to be there. -/
def locate (tool : Tool) (settings : Settings) (searchPath : String) (files : Store) :
    Except Error Path :=
  match tool.configured settings with
  | some path =>
    if files.contains path then .ok path
    else .error (.toolNotFound (tool.name ++ " at " ++ path.quoted))
  | none =>
    match search? files searchPath tool.name with
    | some path => .ok path
    | none => .error (.toolNotFound tool.name)

end Tool

/-- The tools of a system. -/
structure ExternalTools where
  settings : Settings
  /-- The directories that are searched for programs, with colons between. -/
  searchPath : String
  programs : Programs

namespace ExternalTools

/-- The program of a tool. -/
def locate (tools : ExternalTools) (tool : Tool) : FileAction Path := do
  tool.locate tools.settings tools.searchPath (← get)

/-- Runs a command of a tool, which has to succeed. -/
def runChecked (tools : ExternalTools) (cancelled : Bool) (tool : Tool) (command : Command) :
    FileAction Unit := do
  let output ← command.run tools.programs cancelled
  if !output.isSuccess then throw (.toolFailed tool.name output.code output.diagnostics)

/-- Disassembles a module, which has to be there. -/
def disassemble (tools : ExternalTools) (cancelled : Bool) (module output : Path) :
    FileAction (List Char) := do
  let program ← tools.locate .disassembler
  if !(← get).contains module then throw (.missingInput module)
  tools.runChecked cancelled .disassembler (.disassemble program module output)
  FileAction.query (·.readText output)

/-- Reassembles a listing, which has to write its output. -/
def reassemble (tools : ExternalTools) (cancelled : Bool) (source output : Path)
    (resource : Option Path) (architecture : Architecture) : FileAction Unit := do
  let program ← tools.locate .reassembler
  tools.runChecked cancelled .reassembler
    (.reassemble program source output resource architecture)
  if !(← get).contains output then
    throw (.toolFailed Tool.reassembler.name (some 0) ("no output written to " ++ output.quoted))

/-- The action of a call. -/
def action (tools : ExternalTools) (cancelled : Bool) : ToolCall → FileAction (List Char)
  | .disassemble module output => tools.disassemble cancelled module output
  | .reassemble source output resource architecture => do
    tools.reassemble cancelled source output resource architecture
    return []

/-- How the tools answer calls. -/
def toolchain (tools : ExternalTools) : Toolchain := fun w call =>
  let (result, files) := (tools.action w.cancelled call).run w.files
  ⟨result, files, false⟩

end ExternalTools

end PluginBuild
