import PluginBuild.Build.World
import PluginBuild.Text.Blank
/-!
# Commands

The programs that tools run, with their arguments, and what a program that has run says.
-/

namespace PluginBuild

open Files (Path Store Failure)

/-- A program to be run. -/
structure Command where
  program : Path
  args : List String
  /-- The working directory of the program, if it is not that of its caller. -/
  directory : Option Path
deriving DecidableEq

/-- What a program leaves when it ends. -/
structure ProgramOutput where
  /-- The exit code. A program that a signal ends has none. -/
  code : Option Int
  stdout : String
  stderr : String
deriving DecidableEq

namespace ProgramOutput

/-- Whether the program succeeded. -/
def isSuccess (o : ProgramOutput) : Bool := o.code = some 0

/-- What to report of a failure: what the program said on its error output, or else on its
output. -/
def diagnostics (o : ProgramOutput) : String :=
  let said := Text.trim o.stderr.toList
  String.ofList (if said.isEmpty then Text.trim o.stdout.toList else said)

end ProgramOutput

/-- How programs run on files. -/
abbrev Programs := Store → Command → Except Failure (ProgramOutput × Store)

/-- Whether a program can be started with the command. No text in it holds a null character. -/
def Command.isPossible (command : Command) : Bool :=
  (command.program.text :: command.args ++ command.directory.toList.map Path.text).all fun text =>
    '\x00' ∉ text.toList

/-- Runs a command. A build that has been cancelled stops the program once it has started. -/
def Command.run (programs : Programs) (cancelled : Bool) (command : Command) :
    FileAction ProgramOutput := do
  if !command.isPossible then throw (.files .invalidArgument)
  let (output, files) ← FileAction.query (programs · command)
  if cancelled then throw .cancelled
  set files
  return output

/-- Disassembles a module. -/
def Command.disassemble (program module output : Path) : Command :=
  ⟨program, [module.text, "/OUT=" ++ output.text, "/NOBAR"], output.parent?⟩

/-- Reassembles a listing. -/
def Command.reassemble (program source output : Path) (resource : Option Path)
    (architecture : Architecture) : Command :=
  ⟨program, [source.text, "/DLL", "/QUIET", "/OUTPUT=" ++ output.text] ++
    (resource.toList.map fun r => "/RESOURCE=" ++ r.text) ++
    (if architecture = .x64 then ["/X64", "/PE64"] else []), source.parent?⟩

end PluginBuild
