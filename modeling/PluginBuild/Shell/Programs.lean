import PluginBuild.Shell.Run
import PluginBuild.Tools.Command
/-!
# Programs of a store

The programs that can be run where all there is are the system and the files of a store: the shell,
its utilities, and the files that may be run.
-/

namespace PluginBuild.Shell

open Files (Failure Location Store)

/-- The directory that a command runs in. -/
def directoryOf (files : Store) (command : Command) : Except Failure Location :=
  match command.directory with
  | none => .ok files.workingDirectory
  | some path => do
    match ← files.find path with
    | .directory => files.locate path
    | .file .. => throw .notADirectory

/-- The text that bytes are. -/
def textOf (bytes : List UInt8) : String := String.ofList (Text.decodeLossy bytes)

/-- The programs of a store. -/
def programs : Programs := fun files command => do
  let workingDirectory ← directoryOf files command
  let name := inBytes command.program.text
  let arguments := command.args.map inBytes
  if name.isEmpty then throw .notFound
  let start := State.initial (System.install { files with workingDirectory }) name arguments
  let path ← start.programPath searchPath name
  let program ← start.programAt runDepth path name arguments
  let after := runProgram stepLimit program start
  let output : ProgramOutput :=
    { code := if after.killed.isSome then none else some after.status
      stdout := textOf (after.written 1)
      stderr := textOf (after.written 2) }
  return (output, { System.remove files after.files with
    workingDirectory := files.workingDirectory })

end PluginBuild.Shell
