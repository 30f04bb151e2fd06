import PluginBuild.Build.World
/-!
# Scripted tools

Tools that follow a script, to rehearse builds with: a module is taken for its listing and a listing
for its module, and calls fail or cancel the build by their numbers, which count from zero.
-/

namespace PluginBuild

open Files (Path Store)

/-- What tools do apart from copying files. -/
structure ToolScript where
  /-- The call that cancels the build. -/
  cancelAt : Option Nat
  /-- The call that fails. -/
  failAt : Option Nat
  /-- The exit code of the call that fails. -/
  failureCode : Option Int
  /-- What the call that fails says. -/
  failureText : String
  /-- The names without extension of the outputs beside which disassembling puts resources. -/
  resources : List String
  /-- The call of reassembling that writes nothing. -/
  noOutputAt : Option Nat

namespace ToolScript

/-- The program that a call runs. -/
def program : ToolCall → String
  | .disassemble .. => "ildasm"
  | .reassemble .. => "ilasm"

/-- Takes a module for its listing. -/
def disassemble (script : ToolScript) (module output : Path) : FileAction (List Char) := do
  let text ← FileAction.query (·.readText module)
  if output.stem?.any (· ∈ script.resources) then
    FileAction.change (·.write (output.withExtension "res") (.ofText "res".toList))
  return text

/-- Takes a listing for its module. -/
def reassemble (source output : Path) : FileAction (List Char) := do
  let content ← FileAction.query (·.read source)
  FileAction.change (·.write output content)
  return []

/-- The action of a call with a number. -/
def action (script : ToolScript) (number : Nat) (call : ToolCall) : FileAction (List Char) :=
  if script.failAt = some number then
    throw (.toolFailed (program call) script.failureCode script.failureText)
  else match call with
    | .disassemble module output => script.disassemble module output
    | .reassemble source output _ _ =>
      if script.noOutputAt = some number then return [] else reassemble source output

/-- The tools that follow a script. -/
def tools (script : ToolScript) : Toolchain := fun w call =>
  let number := w.calls.length
  let (result, files) := (script.action number call).run w.files
  ⟨result, files, script.cancelAt = some number⟩

end ToolScript

end PluginBuild
