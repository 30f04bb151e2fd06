import PluginBuild.CommandLine.Invocation
import PluginBuild.Settings.Load
import PluginBuild.Tools.External
/-!
# Paths of an invocation

The files and directories that the program may read for its arguments, or write in.
-/

namespace PluginBuild

open Files (Path)

/-- The files of metadata. -/
def MetadataSource.paths : MetadataSource → List Path
  | .dump path => [path]
  | .listings module references => module :: references
  | .assembly => []

/-- The files and directories of a build. The assembly with the base classes may stand beside the
managed one. -/
def BuildRequest.paths (request : BuildRequest) (sdk : String) : List Path :=
  [request.assembly, request.assembly.withName (sdk ++ ".dll"), request.output] ++
    request.metadata.paths ++ request.templates.map (·.path) ++ request.references

/-- The programs that a tool may be. -/
def Tool.paths (tool : Tool) (settings : Settings) (searchPath : String) : List Path :=
  (tool.configured settings).toList ++
    (searchPath.toList.splitOn ':').map fun directory =>
      (⟨String.ofList directory⟩ : Path).join ⟨tool.name⟩

namespace CommandLine

/-- The files and directories of a task. -/
def Task.paths (settings : Settings) (searchPath : String) : Task → List Path
  | .build request _ =>
    request.paths settings.sdkAssembly ++ Tool.paths .reassembler settings searchPath ++
      Tool.paths .disassembler settings searchPath
  | .analyze source _ => source.paths
  | .trim source input output => source.paths ++ [input, output, (output.parent?).getD ⟨""⟩]
  | .catalog _ => []

namespace Invocation

/-- The documents that settings may come from. -/
def settingsPaths (environment : Option Path) : Invocation → List Path
  | .task _ settings => SettingsLayer.projectFile :: settings.toList ++ environment.toList
  | _ => []

/-- The files and directories of the task that is asked for. -/
def paths (settings : Settings) (searchPath : String) : Invocation → List Path
  | .task asked _ => asked.paths settings searchPath
  | _ => []

end Invocation

end CommandLine

end PluginBuild
