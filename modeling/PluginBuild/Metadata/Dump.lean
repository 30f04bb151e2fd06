import PluginBuild.Error
import PluginBuild.Json.Value
import PluginBuild.Json.Reader
import PluginBuild.Metadata.Model
import PluginBuild.Text.Numeral
/-!
# Metadata dumps

A JSON text that holds the metadata of a module and of the modules it refers to. All fields but
names have defaults.
-/

namespace PluginBuild.Metadata

open Json

/-- A module with the modules it refers to. -/
structure Dump where
  module : Module
  references : List Module
deriving DecidableEq

/-- An assembly. -/
def assemblyOfJson? (j : Json) : Option AssemblyIdentity := do
  match ← record? ["name", "version"] j with
  | [name, version] => return ⟨← required? text? name, ← defaulted? none (nullable? text?) version⟩
  | _ => none

/-- The argument of an attribute with the given kind. Only a string may lack its value. -/
def argOfKind? (kind : String) (value : Option Json) : Option AttributeArg :=
  match kind with
  | "string" => (defaulted? none (nullable? text?) value).map .string
  | "type" => (required? text? value).map .type
  | "int" =>
    (required? (integerIn? Text.minInt64 Text.maxInt64) value).map .integer
  | "bool" => (required? flag? value).map .boolean
  | "other" => (required? text? value).map .other
  | _ => none

/-- An argument of an attribute: its kind and its value. -/
def argOfJson? : Json → Option AttributeArg
  | .object fields => do
    let kind ← required? name? (← unique? fields "kind")
    argOfKind? kind (← unique? fields "value")
  | .array [kind, value] => do argOfKind? (← name? kind) (some value)
  | _ => none

/-- An attribute. -/
def attributeOfJson? (j : Json) : Option CustomAttribute := do
  match ← record? ["type_name", "args"] j with
  | [typeName, args] =>
    return ⟨← required? text? typeName, ← defaulted? [] (list? argOfJson?) args⟩
  | _ => none

/-- A visibility by its name. -/
def visibilityOfJson? (j : Json) : Option Visibility := do
  let name ← name? j
  Visibility.all.find? (·.name = name)

/-- A sort of type by its name. -/
def typeKindOfJson? (j : Json) : Option TypeKind := do
  let name ← name? j
  [TypeKind.class, .interface, .valueType].find? (·.name = name)

/-- A reference to a method. -/
def memberRefOfJson? (j : Json) : Option MemberRef := do
  match ← record? ["declaring_type", "name", "params"] j with
  | [declaringType, name, params] =>
    return ⟨← required? text? declaringType, ← required? text? name,
      ← defaulted? none (nullable? (list? text?)) params⟩
  | _ => none

/-- A method. -/
def methodOfJson? (j : Json) : Option Method := do
  let fields ← record? ["name", "params", "visibility", "is_static", "is_virtual", "is_abstract",
    "is_newslot", "is_final", "overrides"] j
  match fields with
  | [name, params, visibility, isStatic, isVirtual, isAbstract, isNewslot, isFinal, overrides] =>
    return { name := ← required? text? name
             params := ← defaulted? [] (list? text?) params
             visibility := ← defaulted? .private visibilityOfJson? visibility
             isStatic := ← defaulted? false flag? isStatic
             isVirtual := ← defaulted? false flag? isVirtual
             isAbstract := ← defaulted? false flag? isAbstract
             isNewslot := ← defaulted? false flag? isNewslot
             isFinal := ← defaulted? false flag? isFinal
             overrides := ← defaulted? [] (list? memberRefOfJson?) overrides }
  | _ => none

/-- A type. -/
def typeOfJson? (j : Json) : Option TypeDef := do
  let fields ← record? ["full_name", "kind", "is_abstract", "base_type", "interfaces", "methods",
    "attributes"] j
  match fields with
  | [fullName, kind, isAbstract, baseType, interfaces, methods, attributes] =>
    return { fullName := ← required? text? fullName
             kind := ← defaulted? .class typeKindOfJson? kind
             isAbstract := ← defaulted? false flag? isAbstract
             baseType := ← defaulted? none (nullable? text?) baseType
             interfaces := ← defaulted? [] (list? text?) interfaces
             methods := ← defaulted? [] (list? methodOfJson?) methods
             attributes := ← defaulted? [] (list? attributeOfJson?) attributes }
  | _ => none

/-- A module. -/
def moduleOfJson? (j : Json) : Option Module := do
  match ← record? ["assembly", "attributes", "types"] j with
  | [assembly, attributes, types] =>
    return { assembly := ← required? assemblyOfJson? assembly
             attributes := ← defaulted? [] (list? attributeOfJson?) attributes
             types := ← defaulted? [] (list? typeOfJson?) types }
  | _ => none

/-- A dump, whatever its module is called. -/
def dumpOfJson? (j : Json) : Option Dump := do
  match ← record? ["module", "references"] j with
  | [module, references] =>
    return ⟨← required? moduleOfJson? module, ← defaulted? [] (list? moduleOfJson?) references⟩
  | _ => none

namespace Dump

/-- The dump that a JSON value is. The name of its module's assembly must not be blank. -/
def ofJson (j : Json) : Except Error Dump :=
  match dumpOfJson? j with
  | none => .error .json
  | some dump =>
    if (Text.trim dump.module.assembly.name.toList).isEmpty then
      .error (.metadata "metadata dump has no assembly name")
    else .ok dump

/-- The dump that a text is. -/
def ofText (text : List Char) : Except Error Dump :=
  match read? text with
  | none => .error .json
  | some j => ofJson j

end Dump

end PluginBuild.Metadata
