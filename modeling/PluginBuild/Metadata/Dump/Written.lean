import PluginBuild.Metadata.Dump
/-!
# Writing metadata dumps

The JSON value of each part of a dump, with every field present and in its order.
-/

namespace PluginBuild.Metadata

/-- A value, or null. -/
def orNull {α : Type} (f : α → Json) : Option α → Json
  | some a => f a
  | none => .null

/-- An array of strings. -/
def stringsJson (names : List String) : Json := .array (names.map .string)

/-- An assembly. -/
def AssemblyIdentity.toJson (a : AssemblyIdentity) : Json :=
  .object [("name", .string a.name), ("version", orNull .string a.version)]

/-- The kind of an argument. -/
def AttributeArg.kind : AttributeArg → String
  | .string _ => "string"
  | .type _ => "type"
  | .integer _ => "int"
  | .boolean _ => "bool"
  | .other _ => "other"

/-- The value of an argument. -/
def AttributeArg.value : AttributeArg → Json
  | .string s => orNull .string s
  | .type name => .string name
  | .integer n => .integer n
  | .boolean b => .bool b
  | .other text => .string text

/-- An argument of an attribute. -/
def AttributeArg.toJson (a : AttributeArg) : Json :=
  .object [("kind", .string a.kind), ("value", a.value)]

/-- An attribute. -/
def CustomAttribute.toJson (a : CustomAttribute) : Json :=
  .object [("type_name", .string a.typeName), ("args", .array (a.args.map AttributeArg.toJson))]

/-- A reference to a method. -/
def MemberRef.toJson (r : MemberRef) : Json :=
  .object [("declaring_type", .string r.declaringType), ("name", .string r.name),
    ("params", orNull stringsJson r.params)]

/-- A method. -/
def Method.toJson (m : Method) : Json :=
  .object [("name", .string m.name), ("params", stringsJson m.params),
    ("visibility", .string m.visibility.name), ("is_static", .bool m.isStatic),
    ("is_virtual", .bool m.isVirtual), ("is_abstract", .bool m.isAbstract),
    ("is_newslot", .bool m.isNewslot), ("is_final", .bool m.isFinal),
    ("overrides", .array (m.overrides.map MemberRef.toJson))]

/-- A type. -/
def TypeDef.toJson (t : TypeDef) : Json :=
  .object [("full_name", .string t.fullName), ("kind", .string t.kind.name),
    ("is_abstract", .bool t.isAbstract), ("base_type", orNull .string t.baseType),
    ("interfaces", stringsJson t.interfaces), ("methods", .array (t.methods.map Method.toJson)),
    ("attributes", .array (t.attributes.map CustomAttribute.toJson))]

/-- A module. -/
def Module.toJson (m : Module) : Json :=
  .object [("assembly", m.assembly.toJson),
    ("attributes", .array (m.attributes.map CustomAttribute.toJson)),
    ("types", .array (m.types.map TypeDef.toJson))]

/-- A dump. -/
def Dump.toJson (d : Dump) : Json :=
  .object [("module", d.module.toJson), ("references", .array (d.references.map Module.toJson))]

end PluginBuild.Metadata
