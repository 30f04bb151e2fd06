import PluginBuild.Error
import PluginBuild.Files.Store
/-!
# Actions on files

Operations on a store that may fail. What an operation did before it failed stays done.
-/

namespace PluginBuild

/-- An operation on a store. -/
abbrev FileAction (α : Type) := ExceptT Error (StateM Files.Store) α

namespace FileAction

open Files

/-- What a store answers, or the failure as an error. -/
def query {α : Type} (f : Store → Except Failure α) : FileAction α := do
  match f (← get) with
  | .ok a => return a
  | .error failure => throw (.files failure)

/-- A change of a store, which is left as it is where the change fails. -/
def change (f : Store → Except Failure Store) : FileAction Unit := do set (← query f)

/-- Makes the directories to which a path leads. The empty path leads to one that is there. -/
def makeDirectories (p : Path) : FileAction Unit := do
  if p.text ≠ "" then
    let (failure, made) := (← get).makeDirectories p
    set made
    match failure with
    | some failure => throw (.files failure)
    | none => return

end FileAction

end PluginBuild
