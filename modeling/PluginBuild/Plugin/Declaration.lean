import PluginBuild.Error
import PluginBuild.Metadata.Universe
import PluginBuild.Text.Names
/-!
# Declarations

Which classes of a module are plugins, and of which kinds. A declaration is an attribute on the
module, which names a kind and a class, or on a type, which names a kind and stands for the type
unless it names a class. A declaration that cannot be used is passed over with a warning.
-/

namespace PluginBuild

open Metadata

/-- A class that serves a kind. -/
structure Declaration where
  kind : PluginKind
  className : String
deriving DecidableEq

/-- The wording of a declaration. -/
def Declaration.text (d : Declaration) : String := d.kind.name ++ " -> " ++ d.className

/-- What makes a declaration unusable. -/
inductive DeclarationFault
  | argumentCount (count : Nat)
  | noKindName
  | unknownKind (text : String)
  | noTypeReference
  | emptyClassName
  | undefinedClass (className : String)
  | notConcrete (className : String)
  | notDerived (className : String) (kind : PluginKind)
deriving DecidableEq

/-- The wording of a fault. -/
def DeclarationFault.message : DeclarationFault → String
  | argumentCount count => "expected 2 arguments, found " ++ toString count
  | noKindName => "first argument is not a kind name"
  | unknownKind text => unknownKindMessage text
  | noTypeReference => "second argument is not a type reference"
  | emptyClassName => "empty class name"
  | undefinedClass className => "class `" ++ className ++ "` is not defined in the module"
  | notConcrete className => "`" ++ className ++ "` is not a concrete class"
  | notDerived className kind =>
    "`" ++ className ++ "` does not derive from " ++ kind.baseClassName

/-- An attribute that declares a plugin, on the module or on a type. -/
structure DeclaringAttribute where
  custom : CustomAttribute
  owner : Option TypeDef

namespace DeclaringAttribute

/-- The simple name of declaring attributes. -/
def attributeName : String := "PluginDefinitionAttribute"

/-- The declaring attributes of a module, its own before those of its types. -/
def ofModule (module : Module) : List DeclaringAttribute :=
  let declaring (attributes : List CustomAttribute) : List CustomAttribute :=
    attributes.filter (simpleName ·.typeName = attributeName)
  (declaring module.attributes).map (⟨·, none⟩) ++
    module.types.flatMap fun type => (declaring type.attributes).map (⟨·, some type⟩)

/-- The wording of an argument. -/
def argText : AttributeArg → String
  | .string (some s) => Text.quoted s
  | .string none => "null"
  | .type name => "typeof(" ++ name ++ ")"
  | .integer n => toString n
  | .boolean b => toString b
  | .other text => text

/-- The wording of an attribute. -/
def text (d : DeclaringAttribute) : String :=
  let args := ", ".intercalate (d.custom.args.map argText)
  simpleName d.custom.typeName ++ "(" ++ args ++ ")" ++
    match d.owner with
    | some type => " on " ++ type.fullName
    | none => ""

/-- The arguments that state the kind and the class. Only on a type may the class be missing. -/
def kindAndClass (d : DeclaringAttribute) :
    Except DeclarationFault (AttributeArg × Option AttributeArg) :=
  match d.custom.args, d.owner with
  | [kind, className], _ => .ok (kind, some className)
  | [kind], some _ => .ok (kind, none)
  | args, _ => .error (.argumentCount args.length)

/-- The kind that an argument states. -/
def kindOf (arg : AttributeArg) : Except DeclarationFault PluginKind :=
  match arg.text? with
  | none => .error .noKindName
  | some text => (PluginKind.ofText text).mapError .unknownKind

/-- The name of the class that an argument states, or else of the type that has the attribute. -/
def classNameOf (arg : Option AttributeArg) (owner : Option TypeDef) :
    Except DeclarationFault String :=
  match arg, owner with
  | some (.type name), _ => .ok name
  | some (.string (some name)), _ => .ok (String.ofList (Text.trim name.toList))
  | none, some type => .ok type.fullName
  | _, _ => .error .noTypeReference

/-- The class of a declaration must be a concrete class of the module with the kind's base class
among its base types. -/
def checkClass (module : Module) (u : Universe) (kind : PluginKind) (className : String) :
    Except DeclarationFault Declaration :=
  if className = "" then .error .emptyClassName
  else match module.findType? className with
    | none => .error (.undefinedClass className)
    | some type =>
      if type.kind = .interface ∨ type.isAbstract then .error (.notConcrete className)
      else if u.derivesFrom type kind.baseClassName then .ok ⟨kind, className⟩
      else .error (.notDerived className kind)

/-- The declaration that an attribute makes. -/
def declaration (module : Module) (u : Universe) (d : DeclaringAttribute) :
    Except DeclarationFault Declaration := do
  let (kindArg, classArg) ← d.kindAndClass
  let kind ← kindOf kindArg
  let className ← classNameOf classArg d.owner
  checkClass module u kind className

/-- The warning about an attribute whose declaration cannot be used. -/
def warning? (module : Module) (u : Universe) (d : DeclaringAttribute) : Option String :=
  match d.declaration module u with
  | .ok _ => none
  | .error fault => some (Error.invalidDeclaration d.text fault.message).message

end DeclaringAttribute

/-- The plugins that a module declares. -/
structure Declarations where
  /-- One declaration for each kind declared, in the order of the kinds. -/
  declarations : List Declaration
  assembly : AssemblyIdentity
  /-- The warnings about attributes passed over, in their order. -/
  warnings : List String
deriving DecidableEq

namespace Declarations

/-- The names of the classes declared for a kind, in order, each once. -/
def classesOf (found : List Declaration) (kind : PluginKind) : List String :=
  Text.nameSet ((found.filter (·.kind = kind)).map (·.className))

/-- The declarations of a module. There must be one at least, and no more than one class for a
kind. -/
def ofModule (module : Module) (u : Universe) : Except Error Declarations :=
  let attributes := DeclaringAttribute.ofModule module
  let found := attributes.filterMap fun d => (d.declaration module u).toOption
  let warnings := attributes.filterMap (·.warning? module u)
  if found.isEmpty then .error (.noPluginFound module.assembly.name warnings)
  else match PluginKind.all.find? fun kind => 1 < (classesOf found kind).length with
    | some kind =>
      .error (.ambiguousDeclaration module.assembly.name kind (classesOf found kind))
    | none =>
      .ok ⟨PluginKind.all.flatMap fun kind => (classesOf found kind).map (⟨kind, ·⟩),
        module.assembly, warnings⟩

/-- The kinds declared, in order. -/
def kinds (d : Declarations) : List PluginKind := d.declarations.map (·.kind)

/-- The declaration for a kind. -/
def find? (d : Declarations) (kind : PluginKind) : Option Declaration :=
  d.declarations.find? (·.kind = kind)

end Declarations

end PluginBuild
