import PluginBuild.Listing.Outline.OfText
import PluginBuild.Metadata.Attribute
/-!
# Metadata in a listing

The assembly, the attributes and the types that the outline of a disassembled module declares.
Bodies of methods are not read, but for the overrides that they state.
-/

namespace PluginBuild.Metadata

open Listing Text

/-- The words before the name of a type in its declaration. -/
def typeFlags : List String :=
  ["public", "private", "nested", "family", "assembly", "famandassem", "famorassem", "auto",
    "sequential", "explicit", "ansi", "unicode", "autochar", "abstract", "sealed", "interface",
    "beforefieldinit", "serializable", "specialname", "rtspecialname", "import",
    "windowsruntime", "value", "enum"]

/-- A reference `Type::Member`, which a return type may precede and a parameter list follow. -/
def memberRef? (text : List Char) : Option MemberRef := do
  let token ← (tokenize text).find? fun token => hasPiece "::".toList token.word.toList
  let (owner, name) ← cutLast? "::".toList token.word.toList
  return ⟨typeRefName owner, String.ofList (unquote name),
    token.group.map fun group => paramTypes group.toList⟩

/-- The method that a line `.override` in a method refers to. -/
def overrideOfLine? (line : Line) : Option MemberRef :=
  (afterPiece? ".override".toList line.trimmed).bind memberRef?

/-- The two methods of a line `.override … with …` in a type: the one overridden and the one that
overrides it. -/
def typeOverrideOfLine? (line : Line) : Option (MemberRef × MemberRef) := do
  let rest ← afterPiece? ".override".toList line.trimmed
  let (declaration, body) ← cutFirst? " with ".toList rest
  return (← memberRef? declaration, ← memberRef? body)

/-- The method that a block declares. -/
def methodOfBlock? (block : Block) : Option Method :=
  block.method.map fun header =>
    { name := header.name
      params := paramTypes header.params.toList
      visibility := header.visibility
      isStatic := header.isStatic
      isVirtual := header.isVirtual
      isAbstract := header.isAbstract
      isNewslot := header.isNewslot
      isFinal := header.isFinal
      overrides := block.body.leaves.filterMap overrideOfLine? }

/-- The methods with an override added to the first that fits the overriding reference. -/
def addOverride (pair : MemberRef × MemberRef) : List Method → List Method
  | [] => []
  | method :: rest =>
    if pair.2.fits method then { method with overrides := method.overrides ++ [pair.1] } :: rest
    else method :: addOverride pair rest

/-- The clauses of a type's declaration. -/
structure Clauses where
  /-- The clause that the words belong to. -/
  clause : String
  baseType : Option String
  interfaces : List String

/-- The clauses with a word more. -/
def Clauses.addWord (clauses : Clauses) (word : String) : Clauses :=
  if word = "extends" ∨ word = "implements" then { clauses with clause := word }
  else if word = "class" ∨ word = "valuetype" ∨ word = "," then clauses
  else if clauses.clause = "extends" ∧ clauses.baseType = none then
    { clauses with baseType := some (typeRefName (dropEndPieces [','] word.toList)) }
  else if clauses.clause = "implements" then
    { clauses with interfaces := clauses.interfaces ++ (items word.toList).map typeRefName }
  else clauses

/-- The clauses in the words up to the opening brace. -/
def clausesOf (words : List String) : Clauses :=
  (words.takeWhile (· ≠ "\x7b")).foldl Clauses.addWord ⟨"", none, []⟩

/-- What surrounds a declaration. -/
inductive Scope
  | namespace (name : String)
  | type (fullName : String)

/-- The name of a declaration with a namespace before it. -/
def qualify (outer name : String) : String := if outer = "" then name else outer ++ "." ++ name

/-- The full name of a type in a scope. -/
def Scope.fullName : Scope → String → String
  | .namespace outer, name => qualify outer name
  | .type outer, name => outer ++ "/" ++ name

/-- The sort of a type with the given flags and base type. -/
def typeKindOf (flags : List String) (baseType : Option String) : TypeKind :=
  if "interface" ∈ flags then .interface
  else if baseType = some "System.ValueType" ∨ baseType = some "System.Enum" then .valueType
  else .class

/-- The type that a block in a scope declares, without the types in it. -/
def typeOfBlock? (scope : Scope) (block : Block) : Option TypeDef :=
  let words := ((tokenize block.declaration).drop 1).map (·.word)
  let flags := words.takeWhile (· ∈ typeFlags)
  match words.dropWhile (· ∈ typeFlags) with
  | [] => none
  | name :: rest =>
    let clauses := clausesOf rest
    let leaves := block.body.leaves
    let overrides := (leaves.filter (attributeOfLine? ·.text = none)).filterMap typeOverrideOfLine?
    let methods := (block.body.blocks.filter (·.kind = .method)).filterMap methodOfBlock?
    some
      { fullName := scope.fullName (String.ofList (withoutGenerics (unquote name.toList)))
        kind := typeKindOf flags clauses.baseType
        isAbstract := "abstract" ∈ flags
        baseType := clauses.baseType
        interfaces := clauses.interfaces
        methods := overrides.foldl (fun methods pair => addOverride pair methods) methods
        attributes := leaves.filterMap (attributeOfLine? ·.text) }

/-- Whether a block is a namespace. -/
def isNamespace (kind : BlockKind) (header : Line) : Bool :=
  kind = .other && header.keyword = ".namespace"

/-- The name that the header of a namespace states. -/
def namespaceName (header : Line) : String :=
  match (tokenize header.text)[1]? with
  | some token => String.ofList (unquote token.word.toList)
  | none => ""

/-- The types in an outline, each before the types in it. A type without a name is passed over with
all that is in it. -/
def typesIn (scope : Scope) : Outline → List TypeDef
  | .nil => []
  | .leaf _ rest => typesIn scope rest
  | .block kind header method body rest =>
    let here :=
      if kind = .type then
        match typeOfBlock? scope ⟨kind, header, method, body⟩ with
        | none => []
        | some type => type :: typesIn (.type type.fullName) body
      else match scope with
        | .namespace outer =>
          if isNamespace kind header then
            typesIn (.namespace (qualify outer (namespaceName header))) body
          else []
        | .type _ => []
    here ++ typesIn scope rest

/-- The name that the header of an assembly states, unless the assembly is another one. -/
def assemblyName? (header : Line) : Option String :=
  let tokens := tokenize header.text
  if tokens.any (·.word = "extern") then none
  else
    ((tokens.drop 1).filter fun token => token.word ≠ "\x7b" ∧ token.group = none).getLast?.map
      fun token => String.ofList (unquote token.word.toList)

/-- The version that a line of an assembly states. -/
def versionOfLine? (line : Line) : Option String := do
  let rest ← afterPiece? ".ver".toList line.trimmed
  let version := replaceChar ':' '.' (trim rest)
  guard (!version.isEmpty)
  return String.ofList version

/-- The assembly that a block declares, unless it refers to another one. -/
def assemblyOfBlock? (header : Line) (body : Outline) : Option AssemblyIdentity :=
  (assemblyName? header).map fun name => ⟨name, (body.leaves.filterMap versionOfLine?).getLast?⟩

/-- The assemblies that an outline declares. -/
def assembliesIn : Outline → List AssemblyIdentity
  | .nil => []
  | .leaf _ rest => assembliesIn rest
  | .block kind header _ body rest =>
    let here :=
      if kind = .assembly then (assemblyOfBlock? header body).toList
      else if isNamespace kind header then assembliesIn body
      else []
    here ++ assembliesIn rest

/-- The attributes on the lines outside of blocks. -/
def leafAttributes (outline : Outline) : List CustomAttribute :=
  outline.leaves.filterMap (attributeOfLine? ·.text)

/-- The attributes in the assemblies and namespaces of an outline. -/
def blockAttributes : Outline → List CustomAttribute
  | .nil => []
  | .leaf _ rest => blockAttributes rest
  | .block kind header _ body rest =>
    let here :=
      if kind = .assembly then if (assemblyName? header).isSome then leafAttributes body else []
      else if isNamespace kind header then leafAttributes body ++ blockAttributes body
      else []
    here ++ blockAttributes rest

/-- The module that an outline declares. Of several assemblies the last one counts. -/
def Module.ofOutline (outline : Outline) : Module :=
  { assembly := (assembliesIn outline).getLast?.getD ⟨"", none⟩
    attributes := leafAttributes outline ++ blockAttributes outline
    types := typesIn (.namespace "") outline }

/-- The module that a listing declares. -/
def Module.ofListing (text : List Char) : Except Malformed Module :=
  (Outline.ofText text).map Module.ofOutline

end PluginBuild.Metadata
