import PluginBuild.Metadata.TypeName
import PluginBuild.Metadata.Visibility
/-!
# Metadata of a module

What the analysis of a plugin needs to know of a managed module: its assembly, its attributes and
its types with their methods.
-/

namespace PluginBuild.Metadata

/-- The name and version of an assembly. -/
structure AssemblyIdentity where
  name : String
  version : Option String
deriving DecidableEq

/-- An argument of an attribute. -/
inductive AttributeArg
  /-- A string, or the null string. -/
  | string (value : Option String)
  | type (name : String)
  | integer (value : Int)
  | boolean (value : Bool)
  /-- An argument of any other sort, as its text. -/
  | other (text : String)
deriving DecidableEq

/-- The text of an argument that is a string and not null. -/
def AttributeArg.text? : AttributeArg → Option String
  | .string value => value
  | _ => none

/-- An attribute with the arguments of its constructor. -/
structure CustomAttribute where
  /-- The full name of the attribute's type. -/
  typeName : String
  args : List AttributeArg
deriving DecidableEq

/-- A reference to a method. -/
structure MemberRef where
  declaringType : String
  name : String
  /-- The types of the parameters; without them the reference is to any overload. -/
  params : Option (List String)
deriving DecidableEq

/-- A method of a type. -/
structure Method where
  name : String
  /-- The types of the parameters. -/
  params : List String
  visibility : Visibility
  isStatic : Bool
  isVirtual : Bool
  isAbstract : Bool
  isNewslot : Bool
  isFinal : Bool
  /-- The methods that this one overrides explicitly. -/
  overrides : List MemberRef
deriving DecidableEq

/-- Whether two methods have the same name and parameters. -/
def Method.hasSignatureOf (m other : Method) : Bool := m.name = other.name ∧ m.params = other.params

/-- Whether a method has the name of a reference, and its parameters where it has some. -/
def MemberRef.fits (r : MemberRef) (m : Method) : Bool :=
  r.name = m.name ∧ ∀ params ∈ r.params, params = m.params

/-- The sorts of type. -/
inductive TypeKind
  | «class»
  | interface
  | valueType
deriving DecidableEq

/-- The name of a sort of type in a metadata dump. -/
def TypeKind.name : TypeKind → String
  | .class => "class"
  | .interface => "interface"
  | .valueType => "valuetype"

/-- A type. -/
structure TypeDef where
  /-- The name with its namespace; a slash stands between an outer type and a nested one. -/
  fullName : String
  kind : TypeKind
  isAbstract : Bool
  baseType : Option String
  /-- The interfaces listed on the type itself. -/
  interfaces : List String
  methods : List Method
  attributes : List CustomAttribute
deriving DecidableEq

/-- A module. -/
structure Module where
  assembly : AssemblyIdentity
  /-- The attributes of the assembly and the module. -/
  attributes : List CustomAttribute
  types : List TypeDef
deriving DecidableEq

namespace Module

/-- The first type with a name. -/
def findType? (module : Module) (fullName : String) : Option TypeDef :=
  module.types.find? (·.fullName = fullName)

/-- The first attribute whose type has a simple name. -/
def attribute? (module : Module) (simple : String) : Option CustomAttribute :=
  module.attributes.find? (simpleName ·.typeName = simple)

/-- The text that the first attribute of a simple name has as its first argument. -/
def attributeText? (module : Module) (simple : String) : Option String :=
  (module.attribute? simple).bind fun found => found.args.head?.bind AttributeArg.text?

/-- The description of the module, unless it is blank. -/
def description? (module : Module) : Option String :=
  (module.attributeText? "AssemblyDescriptionAttribute").filter fun text =>
    !(Text.trim text.toList).isEmpty

/-- The version of the module's file, or else of its assembly. -/
def fileVersion? (module : Module) : Option String :=
  (module.attributeText? "AssemblyFileVersionAttribute").or module.assembly.version

end Module

end PluginBuild.Metadata
