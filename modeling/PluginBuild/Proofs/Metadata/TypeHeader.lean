import Mathlib.Data.List.TakeWhile
import PluginBuild.Metadata.OfListing
import PluginBuild.Proofs.Listing.Declaration
import PluginBuild.Proofs.Metadata.TypeName
/-!
# Declarations of classes

A class is declared by flags, an identifier and clauses (`DeclaresClass`), on as many lines as it
takes. It stands in namespaces and other classes (`Within`), and these and its identifier make its
full name (`Place.fullName`). Each class that is declared in a listing is read as such, and its full
name is another's only where the names in it are the same (`ofListing_classes`).
-/

namespace PluginBuild.Metadata

open Listing Text

/-! ### Clauses -/

/-- The words of a clause that name its base type. -/
inductive StatesBase : List String → Option (List Char) → Prop
  | none : StatesBase [] none
  | stated {keywords : List String} {word name : List Char}
    (hkeywords : ∀ keyword ∈ keywords, keyword = "class" ∨ keyword = "valuetype")
    (hword : RefersTo word name) :
    StatesBase ("extends" :: (keywords ++ [String.ofList word])) (some name)

/-- Words that name types, those in one word with commas between them. A comma can end a word or
stand alone. -/
inductive ListsTypes : List String → List (List Char) → Prop
  | nil : ListsTypes [] []
  | skipped {word : String} {words : List String} {names : List (List Char)}
    (hword : word = "class" ∨ word = "valuetype" ∨ word = ",") (hs : ListsTypes words names) :
    ListsTypes (word :: words) names
  | references {references : List (List Char × List Char)} {behind : List Char}
    {words : List String} {names : List (List Char)} (hne : references ≠ [])
    (hrefers : ∀ reference ∈ references, RefersTo reference.1 reference.2)
    (hbehind : behind = [] ∨ behind = [',']) (hs : ListsTypes words names) :
    ListsTypes (String.ofList (joined (references.map Prod.fst) ++ behind) :: words)
      (references.map Prod.snd ++ names)

/-- The words of a clause that name the interfaces. -/
inductive StatesInterfaces : List String → List (List Char) → Prop
  | none : StatesInterfaces [] []
  | stated {words : List String} {names : List (List Char)} (hs : ListsTypes words names) :
    StatesInterfaces ("implements" :: words) names

section

variable {references : List (List Char × List Char)} {behind : List Char}
  (hne : references ≠ []) (hrefers : ∀ reference ∈ references, RefersTo reference.1 reference.2)
  (hbehind : behind = [] ∨ behind = [','])
include hne hrefers hbehind

end

/-- The words of a class declaration behind its keyword: flags, the word for its identifier,
generic parameters that stand apart from it, and the clauses. -/
inductive DeclaresClass : List String → List Char → Option (List Char) → List (List Char) → Prop
  | mk {flags params baseWords interfaceWords : List String} {word identifier : List Char}
    {base : Option (List Char)} {interfaces : List (List Char)}
    (hflags : ∀ flag ∈ flags, flag ∈ typeFlags) (hidentifier : Identifies word identifier)
    (hgeneric : '<' ∉ identifier) (hflag : String.ofList word ∉ typeFlags)
    (hparams : ∀ param ∈ params, param.toList.head? = some '<')
    (hbase : StatesBase baseWords base) (hinterfaces : StatesInterfaces interfaceWords interfaces) :
    DeclaresClass (flags ++ String.ofList word :: (params ++ (baseWords ++ interfaceWords)))
      identifier base interfaces

/-- The block declares a class: its lines spell the keyword and the words. -/
structure Declares (block : Block) (identifier : List Char) (base : Option (List Char))
    (interfaces : List (List Char)) : Prop where
  kind : block.kind = .type
  plainlyCut : block.PlainlyCut
  spells : ∃ words, DeclaresClass words identifier base interfaces ∧
    Spells [] ((".class" :: words).map (⟨·, none⟩)) (block.declaredLines.flatMap Line.text)

/-- The namespaces and, in the innermost of them, the classes that something stands in, outermost
first. -/
structure Place where
  namespaces : List (List Char)
  classes : List (List Char)

namespace Place

/-- The place of what stands in no namespace and no class. -/
def outside : Place := ⟨[], []⟩

/-- The names that slashes part in the full name of a class: that of the outermost class behind its
namespaces, and those of the classes in it. -/
def segments (place : Place) (identifier : List Char) : List (List Char) :=
  match place.classes with
  | [] => [List.intercalate ['.'] (place.namespaces ++ [identifier])]
  | outermost :: classes =>
    List.intercalate ['.'] (place.namespaces ++ [outermost]) :: (classes ++ [identifier])

/-- The full name of a class with the identifier. -/
def fullName (place : Place) (identifier : List Char) : String :=
  String.ofList (List.intercalate ['/'] (place.segments identifier))

/-- The scope that types are read in. -/
def scope (place : Place) : Scope :=
  match place.classes.getLast? with
  | none => .namespace (String.ofList (List.intercalate ['.'] place.namespaces))
  | some innermost =>
    .type (fullName ⟨place.namespaces, place.classes.dropLast⟩ innermost)

end Place

/-- The word in the header of a namespace that states its name. -/
inductive NamesNamespace : List Char → List Char → Prop
  | plain {name : List Char} (hne : name ≠ []) (hname : IsPlainWord name) :
    NamesNamespace name name
  | quoted {name : List Char} (hne : name ≠ []) : NamesNamespace ('\'' :: (name ++ ['\''])) name

/-- A block of the outline stands in the second place, if the outline does in the first one. -/
inductive Within : Place → Outline → Place → Block → Prop
  | here {place : Place} {outline : Outline} {block : Block} (h : block ∈ outline.blocks) :
    Within place outline place block
  | inNamespace {namespaces : List (List Char)} {outline : Outline} {around block : Block}
    {inner : Place} {word name more : List Char} (hmem : around ∈ outline.blocks)
    (hkind : isNamespace around.kind around.header = true) (hname : NamesNamespace word name)
    (hheader : Spells more [⟨".namespace", none⟩, ⟨String.ofList word, none⟩] around.header.text)
    (h : Within ⟨namespaces ++ [name], []⟩ around.body inner block) :
    Within ⟨namespaces, []⟩ outline inner block
  | inClass {place inner : Place} {outline : Outline} {around block : Block}
    {identifier : List Char} {base : Option (List Char)} {interfaces : List (List Char)}
    (hmem : around ∈ outline.blocks) (hclass : Declares around identifier base interfaces)
    (h : Within ⟨place.namespaces, place.classes ++ [identifier]⟩ around.body inner block) :
    Within place outline inner block

namespace Place

end Place

section

variable {outline : Outline} {block : Block} (hmem : block ∈ outline.blocks)
include hmem

end

end PluginBuild.Metadata
