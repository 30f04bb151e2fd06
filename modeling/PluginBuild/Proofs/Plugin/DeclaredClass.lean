import PluginBuild.Metadata.Dump
import PluginBuild.Metadata.OfListing
import PluginBuild.Plugin.Implemented
import PluginBuild.Proofs.Listing.Line
import PluginBuild.Proofs.Metadata.UserChain
import PluginBuild.Proofs.Plugin.Declaration
/-!
# The class that is declared and the class that is analysed

A declaration is checked on the first type of the module with the name of the class, and the members
that it implements are looked for from the last one. A type of a reference is never taken instead.
So both are the same class unless types of the module share the name
(`Declarations.declared_and_analysed`), and a listing or a dump may well have two types of one name
(`exists_other_class_analysed`).
-/

namespace PluginBuild

open Listing Metadata

namespace Metadata

variable {user : Module} {name : String} {first last : TypeDef}

/-- The types of a module with a name, in their order. -/
def Module.namesakes (module : Module) (name : String) : List TypeDef :=
  module.types.filter (·.fullName = name)

theorem Module.findType?_eq_head? (module : Module) (name : String) :
    module.findType? name = (module.namesakes name).head? := by
  rw [findType?, namesakes, List.head?_filter]

/-- Of the user's types with a name, the last one is in sight. -/
theorem Universe.get?_ofUser (user : Module) (name : String) :
    (ofUser user).get? name = (user.namesakes name).getLast? := by
  have hfind : ∀ types : List TypeDef,
      ((types.map (LoadedType.mk · .user)).find? (·.type.fullName = name)).map (·.type) =
        types.find? (·.fullName = name) := by
    intro types
    rw [List.find?_map, Option.map_map]
    exact Option.map_id'
  rw [get?, find?, ofUser, ofModules, List.flatMap_nil, List.reverse_nil, List.map_nil,
    List.append_nil, hfind, Module.namesakes, ← List.head?_reverse, ← List.filter_reverse,
    List.head?_filter]

/-- Where the types of a module have different names, the first with a name is the last. -/
theorem Module.first_eq_last (hnames : (user.types.map TypeDef.fullName).Nodup)
    (hfirst : (user.namesakes name).head? = some first)
    (hlast : (user.namesakes name).getLast? = some last) : first = last := by
  obtain ⟨hfirstMem, hfirstName⟩ := List.mem_filter.1 (List.mem_of_head? hfirst)
  obtain ⟨hlastMem, hlastName⟩ := List.mem_filter.1 (List.mem_of_getLast? hlast)
  have hname : first.fullName = last.fullName :=
    (of_decide_eq_true hfirstName).trans (of_decide_eq_true hlastName).symm
  exact List.inj_on_of_nodup_map hnames hfirstMem hlastMem hname

end Metadata

namespace Declarations

variable {user : Module} {references : List Module} {declared : Declarations} {d : Declaration}

/-- The class of a declaration is checked as the first type of the module with its name, and its
members are those of the last, whatever types references have. So it is the same class exactly if
the two types are the same, as they are where the types of the module have different names. -/
theorem declared_and_analysed (h : ofModule user (.ofModules user references) = .ok declared)
    (hd : d ∈ declared.declarations) :
    ∃ first last, (user.namesakes d.className).head? = some first ∧
      (user.namesakes d.className).getLast? = some last ∧
      (user.findType? d.className = some first ∧ first.kind ≠ .interface ∧
        first.isAbstract = false ∧
        (Universe.ofModules user references).derivesFrom first d.kind.baseClassName = true) ∧
      ((Universe.ofModules user references).get? d.className = some last ∧
        (Universe.ofModules user references).isUser d.className = true ∧
        ∀ m ∈ ImplementedMember.candidates (.ofModules user references) d.className,
          m.owner ∈ (Universe.ofModules user references).ancestry last) ∧
      (user.findType? d.className = (Universe.ofModules user references).get? d.className ↔
        first = last) ∧
      ((user.types.map TypeDef.fullName).Nodup → first = last) := by
  obtain ⟨-, first, hfind, hkind, habstract, hderives⟩ := serves_of_mem h hd
  have hfirst : (user.namesakes d.className).head? = some first := by
    rw [← user.findType?_eq_head?, hfind]
  obtain ⟨last, hlast⟩ : ∃ last, (user.namesakes d.className).getLast? = some last := by
    cases hlast : (user.namesakes d.className).getLast? with
    | some last => exact ⟨last, rfl⟩
    | none =>
      rw [List.getLast?_eq_none_iff.1 hlast] at hfirst
      cases hfirst
  have huser : (Universe.ofUser user).get? d.className = some last := by
    rw [Universe.get?_ofUser, hlast]
  -- A type of a reference is in sight only where the user has none of its name.
  have hget : (Universe.ofModules user references).get? d.className = some last :=
    Universe.get?_ofModules_of_user huser
  refine ⟨first, last, hfirst, hlast,
    ⟨hfind, hkind, habstract, Universe.derivesFrom_iff.2 hderives⟩, ⟨hget, ?_, fun m hm => ?_⟩, ?_,
    fun hnames => Module.first_eq_last hnames hfirst hlast⟩
  · rw [Universe.isUser_ofModules, huser, Option.isSome_some]
  · rw [ImplementedMember.candidates, hget] at hm
    obtain ⟨base, hbase, hmethod⟩ := List.mem_flatMap.1 hm
    obtain ⟨index, -, rfl⟩ := List.mem_map.1 (List.mem_filter.1 hmethod).1
    exact (List.takeWhile_sublist _).subset hbase
  · rw [hfind, hget, Option.some.injEq]

open Analysis (attributedClass moduleOf pluginAttribute)

/-- A reference with a type of the same name does not take the place of the declared class. -/
theorem declared_and_analysed_declaringModule :
    ofModule (declaringModule [])
        (.ofModules (declaringModule []) [moduleOf "Other" [attributedClass "Fs" none []]]) =
      .ok ⟨[⟨.fileSystem, "Fs"⟩], ⟨"Sample", none⟩, []⟩ ∧
    (declaringModule []).findType? "Fs" = some (declaringClass []) ∧
    (Universe.ofModules (declaringModule []) [moduleOf "Other" [attributedClass "Fs" none []]]).get?
      "Fs" = some (declaringClass []) := by
  have hdeclared : ofModule (declaringModule [])
      (.ofModules (declaringModule []) [moduleOf "Other" [attributedClass "Fs" none []]]) =
        .ok ⟨[⟨.fileSystem, "Fs"⟩], ⟨"Sample", none⟩, []⟩ := by
    decide +kernel
  have hfind : (declaringModule []).findType? "Fs" = some (declaringClass []) := by
    decide +kernel
  obtain ⟨first, last, -, -, -, -, hsame, hnames⟩ :=
    declared_and_analysed hdeclared (List.mem_singleton_self _)
  refine ⟨hdeclared, hfind, ?_⟩
  rw [← hfind]
  exact (hsame.2 (hnames (by decide))).symm

/-- A method that makes a directory for the host. -/
def mkDir : Method :=
  { name := "MkDir", params := [], visibility := .public, isStatic := false, isVirtual := true
    isAbstract := false, isNewslot := true, isFinal := false, overrides := [] }

/-- A module with two classes of one name. The first is a plugin with methods. -/
def namesakeModule (methods : List Method) : Module :=
  moduleOf "Sample"
    [{ attributedClass "Fs" (some "FsPlugin") [pluginAttribute [.string (some "FileSystem")]] with
        interfaces := ["IFsPlugin"], methods },
      attributedClass "Fs" (some "FsPlugin") []]

/-- A listing of two classes whose names are read as the same: quotes do not keep the angle brackets
in the second one. -/
def namesakeListing : List Char :=
  (".assembly Sample\n\x7b\n\x7d\n" ++
    ".class Fs\n  extends FsPlugin\n  implements IFsPlugin\n\x7b\n" ++
    "  .custom instance void PluginDefinitionAttribute::.ctor(string) = " ++
    "\x7b string('FileSystem') \x7d\n" ++
    "  .method public newslot virtual instance void MkDir()\n  \x7b\n  \x7d\n\x7d\n" ++
    ".class 'Fs<int32>'\n  extends FsPlugin\n\x7b\n\x7d\n").toList

def namesakeDump : List Char :=
  ("\x7b\"module\":\x7b\"assembly\":\x7b\"name\":\"Sample\"\x7d,\"types\":[" ++
    "\x7b\"full_name\":\"Fs\",\"base_type\":\"FsPlugin\",\"interfaces\":[\"IFsPlugin\"]," ++
    "\"attributes\":[\x7b\"type_name\":\"PluginDefinitionAttribute\"," ++
    "\"args\":[\x7b\"kind\":\"string\",\"value\":\"FileSystem\"\x7d]\x7d]\x7d," ++
    "\x7b\"full_name\":\"Fs\",\"base_type\":\"FsPlugin\"\x7d]\x7d\x7d").toList

/-- The class that a module declares for file systems is not the one that is analysed. -/
def OtherAnalysed (user : Module) : Prop :=
  ofModule user (.ofModules user []) =
      .ok ⟨[⟨.fileSystem, "Fs"⟩], ⟨"Sample", none⟩, []⟩ ∧
    user.findType? "Fs" ≠ (Universe.ofModules user []).get? "Fs" ∧
    ImplementedMember.candidates (.ofModules user []) "Fs" = []

instance (user : Module) : Decidable (OtherAnalysed user) := inferInstanceAs (Decidable (_ ∧ _))

/-- In a listing and in a dump, two types can have the name of a declared class. -/
theorem exists_other_class_analysed :
    (∃ user, Module.ofListing namesakeListing = .ok user ∧ OtherAnalysed user) ∧
      ∃ dump, Dump.ofText namesakeDump = .ok dump ∧ OtherAnalysed dump.module := by
  have hlisting : Module.ofListing namesakeListing = .ok (namesakeModule [mkDir]) := by
    decide +kernel
  have hdump : (Dump.ofText namesakeDump).map Dump.module = .ok (namesakeModule []) := by
    decide +kernel
  obtain ⟨dump, hread, hmodule⟩ := exists_ok_of_map_eq_ok hdump
  refine ⟨⟨_, hlisting, ?_⟩, dump, hread, ?_⟩
  · decide +kernel
  · rw [hmodule]
    decide +kernel

end Declarations

end PluginBuild
