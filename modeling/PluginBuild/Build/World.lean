import PluginBuild.Files.Action
/-!
# What a build acts on

A build changes files and calls tools, and it may be cancelled from outside while a tool runs. Every
call is recorded before the tool is run, whatever the tool does then. A cancellation stays.
-/

namespace PluginBuild

open Files (Path Store)

/-- A call of a tool. -/
inductive ToolCall
  /-- Writes the listing of a module and gives its text. -/
  | disassemble (module output : Path)
  /-- Makes a module of a listing, with a file of resources. -/
  | reassemble (source output : Path) (resource : Option Path) (architecture : Architecture)
deriving DecidableEq

/-- The file that a call writes. -/
def ToolCall.output : ToolCall → Path
  | disassemble _ output => output
  | reassemble _ output _ _ => output

/-- The state of a build. -/
structure World where
  files : Store
  cancelled : Bool
  /-- The calls of tools so far, in order. -/
  calls : List ToolCall

/-- What a call of a tool leads to. -/
structure ToolOutcome where
  /-- The text of the listing that the tool gives, if any. -/
  result : Except Error (List Char)
  files : Store
  /-- Whether the build was cancelled while the tool ran. -/
  cancelled : Bool

/-- How tools answer calls, in the world as it is before the call. -/
abbrev Toolchain := World → ToolCall → ToolOutcome

/-- A step of a build. What a step did before it failed stays done. -/
abbrev BuildAction (α : Type) := ExceptT Error (StateM World) α

namespace World

/-- The world after a call. The working directory is not the tools' to change. -/
def after (w : World) (call : ToolCall) (outcome : ToolOutcome) : World :=
  { files := { w.files with nodes := outcome.files.nodes }
    cancelled := w.cancelled || outcome.cancelled
    calls := w.calls ++ [call] }

end World

namespace BuildAction

/-- An action on files. -/
def onFiles {α : Type} (action : FileAction α) : BuildAction α := do
  let w ← get
  let (result, files) := action.run w.files
  set { w with files }
  result

/-- A question to the files. -/
def ask {α : Type} (f : Store → α) : BuildAction α := do return f (← get).files

/-- The listing that a call of a tool gives. -/
def call (tools : Toolchain) (call : ToolCall) : BuildAction (List Char) := do
  let w ← get
  let outcome := tools w call
  set (w.after call outcome)
  outcome.result

/-- Goes on unless the build has been cancelled. -/
def checkpoint : BuildAction Unit := do
  if (← get).cancelled then throw .cancelled

end BuildAction

end PluginBuild
