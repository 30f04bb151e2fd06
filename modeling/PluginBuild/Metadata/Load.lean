import PluginBuild.Files.Store
import PluginBuild.Metadata.Dump
import PluginBuild.Metadata.OfListing
/-!
# Loading metadata

Dumps and listings from files.
-/

namespace PluginBuild.Metadata

open Files (Path Store)

/-- The dump in a file. -/
def Dump.load (files : Store) (path : Path) : Except Error Dump :=
  match files.readText path with
  | .error failure =>
    .error (.metadata ("failed to read metadata dump " ++ path.quoted ++ ": " ++ failure.message))
  | .ok text => ofText text

/-- The module that a listing declares, with a fault of the listing as an error. -/
def Module.ofText (listing : List Char) : Except Error Module :=
  (Module.ofListing listing).mapError .ofMalformed

end PluginBuild.Metadata
