import PluginBuild.Ordered
/-!
# Sets of names

Names in their order, each once. The order is that of the code points, which is also the order of
the bytes in UTF-8.
-/

namespace PluginBuild.Text

/-- The names in order, each once. -/
def nameSet (names : List String) : List String := Ordered.ofList (fun a b => a < b) names

/-- A set of names has the names it is made of. -/
theorem mem_nameSet {x : String} {names : List String} : x ∈ nameSet names ↔ x ∈ names :=
  Ordered.mem_ofList

end PluginBuild.Text
