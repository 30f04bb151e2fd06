import PluginBuild.Metadata.Dump.Written
import PluginBuild.Proofs.Json.Record
import PluginBuild.Proofs.Json.RoundTrip
/-!
# Reading metadata dumps back

A dump is read back from its text and from every other way to write it: with the keys of records in
another order, without fields that hold their default, with unknown fields (`Dump.ofText_eq_ok`).
For each part of a dump stands here how it may be written and that it is then read.
-/

namespace PluginBuild.Metadata

open Json

/-!
## How the parts of a dump are written

Each part is a record: `fields` lists its fields with their defaults and with what stands in them,
and `IsWrittenAs` says which JSON values the part may be written as.
-/

def AssemblyIdentity.fields (a : AssemblyIdentity) : List Field :=
  [.required "name" (IsText a.name),
    .defaulted "version" none a.version (IsOrNull IsText)]

def AssemblyIdentity.IsWrittenAs (a : AssemblyIdentity) : Json → Prop := IsRecord a.fields

/-- The kind and the value of an argument. A string that is null may lack its value. -/
def AttributeArg.fields (a : AttributeArg) : List Field :=
  [.required "kind" (IsText a.kind), ⟨"value", a = .string none, (· = a.value)⟩]

def AttributeArg.IsWrittenAs (a : AttributeArg) : Json → Prop := IsRecord a.fields

def CustomAttribute.fields (a : CustomAttribute) : List Field :=
  [.required "type_name" (IsText a.typeName),
    .defaulted "args" [] a.args (IsArrayOf AttributeArg.IsWrittenAs)]

def CustomAttribute.IsWrittenAs (a : CustomAttribute) : Json → Prop := IsRecord a.fields

def MemberRef.fields (r : MemberRef) : List Field :=
  [.required "declaring_type" (IsText r.declaringType), .required "name" (IsText r.name),
    .defaulted "params" none r.params (IsOrNull (IsArrayOf IsText))]

def MemberRef.IsWrittenAs (r : MemberRef) : Json → Prop := IsRecord r.fields

def Method.fields (m : Method) : List Field :=
  [.required "name" (IsText m.name), .defaulted "params" [] m.params (IsArrayOf IsText),
    .defaulted "visibility" .private m.visibility (fun v => IsText v.name),
    .defaulted "is_static" false m.isStatic IsFlag,
    .defaulted "is_virtual" false m.isVirtual IsFlag,
    .defaulted "is_abstract" false m.isAbstract IsFlag,
    .defaulted "is_newslot" false m.isNewslot IsFlag,
    .defaulted "is_final" false m.isFinal IsFlag,
    .defaulted "overrides" [] m.overrides (IsArrayOf MemberRef.IsWrittenAs)]

def Method.IsWrittenAs (m : Method) : Json → Prop := IsRecord m.fields

def TypeDef.fields (t : TypeDef) : List Field :=
  [.required "full_name" (IsText t.fullName),
    .defaulted "kind" .class t.kind (fun k => IsText k.name),
    .defaulted "is_abstract" false t.isAbstract IsFlag,
    .defaulted "base_type" none t.baseType (IsOrNull IsText),
    .defaulted "interfaces" [] t.interfaces (IsArrayOf IsText),
    .defaulted "methods" [] t.methods (IsArrayOf Method.IsWrittenAs),
    .defaulted "attributes" [] t.attributes (IsArrayOf CustomAttribute.IsWrittenAs)]

def TypeDef.IsWrittenAs (t : TypeDef) : Json → Prop := IsRecord t.fields

def Module.fields (m : Module) : List Field :=
  [.required "assembly" m.assembly.IsWrittenAs,
    .defaulted "attributes" [] m.attributes (IsArrayOf CustomAttribute.IsWrittenAs),
    .defaulted "types" [] m.types (IsArrayOf TypeDef.IsWrittenAs)]

def Module.IsWrittenAs (m : Module) : Json → Prop := IsRecord m.fields

def Dump.fields (d : Dump) : List Field :=
  [.required "module" d.module.IsWrittenAs,
    .defaulted "references" [] d.references (IsArrayOf Module.IsWrittenAs)]

/-- What a dump may be written as. -/
def Dump.IsWrittenAs (d : Dump) : Json → Prop := IsRecord d.fields

/-!
## Numbers

The numbers among the arguments of attributes have 64 bits, in every part of a dump.
-/

def AttributeArg.InRange : AttributeArg → Prop
  | .integer n => Text.minInt64 ≤ n ∧ n ≤ Text.maxInt64
  | _ => True

def CustomAttribute.InRange (a : CustomAttribute) : Prop := ∀ arg ∈ a.args, arg.InRange

def TypeDef.InRange (t : TypeDef) : Prop := ∀ a ∈ t.attributes, a.InRange

def Module.InRange (m : Module) : Prop :=
  (∀ a ∈ m.attributes, a.InRange) ∧ ∀ t ∈ m.types, t.InRange

/-- All numbers in the dump have 64 bits. -/
def Dump.InRange (d : Dump) : Prop := d.module.InRange ∧ ∀ m ∈ d.references, m.InRange

/-!
## Reading

Each reader takes its part out of whatever the part may be written as.
-/

theorem reads_assembly (a : AssemblyIdentity) : Reads assemblyOfJson? a a.IsWrittenAs := by
  intro j hj
  obtain ⟨_, hrecord, _ | ⟨hname, _ | ⟨hversion, _ | _⟩⟩⟩ :=
    exists_of_isRecord ["name", "version"] hj rfl (by decide)
  simp only [assemblyOfJson?, hrecord, Option.bind_eq_bind, Option.bind_some,
    Field.required?_eq (reads_text _) hname,
    Field.defaulted?_eq (reads_nullable rfl fun s _ => reads_text s) hversion, Option.pure_def]

/-- The value of an argument is read by the argument's kind. -/
theorem argOfKind?_eq {a : AttributeArg} (h : a.InRange) :
    argOfKind? a.kind (some a.value) = some a := by
  cases a with
  | string s => cases s <;> rfl
  | integer n =>
    have hn : integerIn? Text.minInt64 Text.maxInt64 (.integer n) = some n := if_pos h
    simp only [argOfKind?, AttributeArg.kind, AttributeArg.value, required?, Option.bind_some, hn,
      Option.map_some]
  | _ => rfl

theorem reads_arg {a : AttributeArg} (h : a.InRange) : Reads argOfJson? a a.IsWrittenAs := by
  intro j hj
  obtain ⟨entries, rfl⟩ := hj.exists_object
  have hkeys : (a.fields.map Field.key).Nodup := show ["kind", "value"].Nodup by decide
  have hfields : ∀ field ∈ a.fields,
      ∃ value, unique? entries field.key = some value ∧ field.IsWrittenAs value :=
    fun _ hfield => hj.exists_unique? hkeys hfield
  simp only [AttributeArg.fields, List.forall_mem_cons] at hfields
  obtain ⟨⟨kind, hkind, hkindIs⟩, ⟨value, hvalue, hvalueIs⟩, -⟩ := hfields
  have hname : required? name? kind = some a.kind := by
    refine Field.required?_eq (W := IsText) ?_ hkindIs
    rintro _ rfl
    rfl
  simp only [Field.required] at hkind
  simp only [argOfJson?, hkind, hvalue, Option.bind_eq_bind, Option.bind_some, hname]
  -- Only the null string may lack its value, and it is what the kind alone is read as.
  cases value with
  | none =>
    obtain rfl : a = .string none := hvalueIs
    rfl
  | some j =>
    obtain rfl : j = a.value := hvalueIs
    exact argOfKind?_eq h

theorem reads_attribute {a : CustomAttribute} (h : a.InRange) :
    Reads attributeOfJson? a a.IsWrittenAs := by
  intro j hj
  obtain ⟨_, hrecord, _ | ⟨htype, _ | ⟨hargs, _ | _⟩⟩⟩ :=
    exists_of_isRecord ["type_name", "args"] hj rfl (by decide)
  simp only [attributeOfJson?, hrecord, Option.bind_eq_bind, Option.bind_some,
    Field.required?_eq (reads_text _) htype,
    Field.defaulted?_eq (reads_list fun arg harg => reads_arg (h arg harg)) hargs, Option.pure_def]

theorem reads_visibility (v : Visibility) :
    Reads visibilityOfJson? v fun j => IsText v.name j := by
  rintro _ rfl
  cases v <;> rfl

theorem reads_typeKind (k : TypeKind) : Reads typeKindOfJson? k fun j => IsText k.name j := by
  rintro _ rfl
  cases k <;> rfl

theorem reads_memberRef (r : MemberRef) : Reads memberRefOfJson? r r.IsWrittenAs := by
  intro j hj
  obtain ⟨_, hrecord, _ | ⟨htype, _ | ⟨hname, _ | ⟨hparams, _ | _⟩⟩⟩⟩ :=
    exists_of_isRecord ["declaring_type", "name", "params"] hj rfl (by decide)
  simp only [memberRefOfJson?, hrecord, Option.bind_eq_bind, Option.bind_some,
    Field.required?_eq (reads_text _) htype, Field.required?_eq (reads_text _) hname,
    Field.defaulted?_eq (reads_nullable rfl fun _ _ => reads_list fun s _ => reads_text s) hparams,
    Option.pure_def]

theorem reads_method (m : Method) : Reads methodOfJson? m m.IsWrittenAs := by
  intro j hj
  obtain ⟨_, hrecord, _ | ⟨hname, _ | ⟨hparams, _ | ⟨hvisibility, _ | ⟨hstatic, _ | ⟨hvirtual,
      _ | ⟨habstract, _ | ⟨hnewslot, _ | ⟨hfinal, _ | ⟨hoverrides, _ | _⟩⟩⟩⟩⟩⟩⟩⟩⟩⟩ :=
    exists_of_isRecord ["name", "params", "visibility", "is_static", "is_virtual",
      "is_abstract", "is_newslot", "is_final", "overrides"] hj rfl (by decide)
  simp only [methodOfJson?, hrecord, Option.bind_eq_bind, Option.bind_some,
    Field.required?_eq (reads_text _) hname,
    Field.defaulted?_eq (reads_list fun s _ => reads_text s) hparams,
    Field.defaulted?_eq (reads_visibility _) hvisibility,
    Field.defaulted?_eq (reads_flag _) hstatic, Field.defaulted?_eq (reads_flag _) hvirtual,
    Field.defaulted?_eq (reads_flag _) habstract, Field.defaulted?_eq (reads_flag _) hnewslot,
    Field.defaulted?_eq (reads_flag _) hfinal,
    Field.defaulted?_eq (reads_list fun r _ => reads_memberRef r) hoverrides, Option.pure_def]

theorem reads_type {t : TypeDef} (h : t.InRange) : Reads typeOfJson? t t.IsWrittenAs := by
  intro j hj
  obtain ⟨_, hrecord, _ | ⟨hname, _ | ⟨hkind, _ | ⟨habstract, _ | ⟨hbase, _ | ⟨hinterfaces,
      _ | ⟨hmethods, _ | ⟨hattributes, _ | _⟩⟩⟩⟩⟩⟩⟩⟩ :=
    exists_of_isRecord ["full_name", "kind", "is_abstract", "base_type", "interfaces",
      "methods", "attributes"] hj rfl (by decide)
  simp only [typeOfJson?, hrecord, Option.bind_eq_bind, Option.bind_some,
    Field.required?_eq (reads_text _) hname, Field.defaulted?_eq (reads_typeKind _) hkind,
    Field.defaulted?_eq (reads_flag _) habstract,
    Field.defaulted?_eq (reads_nullable rfl fun s _ => reads_text s) hbase,
    Field.defaulted?_eq (reads_list fun s _ => reads_text s) hinterfaces,
    Field.defaulted?_eq (reads_list fun m _ => reads_method m) hmethods,
    Field.defaulted?_eq (reads_list fun a ha => reads_attribute (h a ha)) hattributes,
    Option.pure_def]

theorem reads_module {m : Module} (h : m.InRange) : Reads moduleOfJson? m m.IsWrittenAs := by
  intro j hj
  obtain ⟨_, hrecord, _ | ⟨hassembly, _ | ⟨hattributes, _ | ⟨htypes, _ | _⟩⟩⟩⟩ :=
    exists_of_isRecord ["assembly", "attributes", "types"] hj rfl (by decide)
  simp only [moduleOfJson?, hrecord, Option.bind_eq_bind, Option.bind_some,
    Field.required?_eq (W := AssemblyIdentity.IsWrittenAs) (reads_assembly _) hassembly,
    Field.defaulted?_eq (reads_list fun a ha => reads_attribute (h.1 a ha)) hattributes,
    Field.defaulted?_eq (reads_list fun t ht => reads_type (h.2 t ht)) htypes, Option.pure_def]

theorem reads_dump {d : Dump} (h : d.InRange) : Reads dumpOfJson? d d.IsWrittenAs := by
  intro j hj
  obtain ⟨_, hrecord, _ | ⟨hmodule, _ | ⟨hreferences, _ | _⟩⟩⟩ :=
    exists_of_isRecord ["module", "references"] hj rfl (by decide)
  simp only [dumpOfJson?, hrecord, Option.bind_eq_bind, Option.bind_some,
    Field.required?_eq (W := Module.IsWrittenAs) (reads_module h.1) hmodule,
    Field.defaulted?_eq (reads_list fun m hm => reads_module (h.2 m hm)) hreferences,
    Option.pure_def]

/-! ## Writing -/

theorem isOrNull_orNull {α : Type} {W : α → Json → Prop} {f : α → Json} (h : ∀ a, W a (f a))
    (o : Option α) : IsOrNull W o (orNull f o) := by
  cases o with
  | none => rfl
  | some a => exact h a

theorem isArrayOf_stringsJson (names : List String) :
    IsArrayOf IsText names (stringsJson names) :=
  isArrayOf_map fun _ _ => rfl

theorem AssemblyIdentity.isWrittenAs_toJson (a : AssemblyIdentity) : a.IsWrittenAs a.toJson :=
  isRecord_of_forall₂ <|
    .cons ⟨rfl, rfl⟩ <| .cons ⟨rfl, isOrNull_orNull (W := IsText) (fun _ => rfl) a.version⟩ .nil

theorem AttributeArg.isWrittenAs_toJson (a : AttributeArg) : a.IsWrittenAs a.toJson :=
  isRecord_of_forall₂ <| .cons ⟨rfl, rfl⟩ <| .cons ⟨rfl, rfl⟩ .nil

theorem CustomAttribute.isWrittenAs_toJson (a : CustomAttribute) : a.IsWrittenAs a.toJson :=
  isRecord_of_forall₂ <|
    .cons ⟨rfl, rfl⟩ <|
    .cons ⟨rfl, isArrayOf_map fun arg _ => AttributeArg.isWrittenAs_toJson arg⟩ .nil

theorem MemberRef.isWrittenAs_toJson (r : MemberRef) : r.IsWrittenAs r.toJson :=
  isRecord_of_forall₂ <|
    .cons ⟨rfl, rfl⟩ <| .cons ⟨rfl, rfl⟩ <|
    .cons ⟨rfl, isOrNull_orNull isArrayOf_stringsJson r.params⟩ .nil

theorem Method.isWrittenAs_toJson (m : Method) : m.IsWrittenAs m.toJson :=
  isRecord_of_forall₂ <|
    .cons ⟨rfl, rfl⟩ <| .cons ⟨rfl, isArrayOf_stringsJson m.params⟩ <| .cons ⟨rfl, rfl⟩ <|
    .cons ⟨rfl, rfl⟩ <| .cons ⟨rfl, rfl⟩ <| .cons ⟨rfl, rfl⟩ <| .cons ⟨rfl, rfl⟩ <|
    .cons ⟨rfl, rfl⟩ <|
    .cons ⟨rfl, isArrayOf_map fun r _ => MemberRef.isWrittenAs_toJson r⟩ .nil

theorem TypeDef.isWrittenAs_toJson (t : TypeDef) : t.IsWrittenAs t.toJson :=
  isRecord_of_forall₂ <|
    .cons ⟨rfl, rfl⟩ <| .cons ⟨rfl, rfl⟩ <| .cons ⟨rfl, rfl⟩ <|
    .cons ⟨rfl, isOrNull_orNull (W := IsText) (fun _ => rfl) t.baseType⟩ <|
    .cons ⟨rfl, isArrayOf_stringsJson t.interfaces⟩ <|
    .cons ⟨rfl, isArrayOf_map fun m _ => Method.isWrittenAs_toJson m⟩ <|
    .cons ⟨rfl, isArrayOf_map fun a _ => CustomAttribute.isWrittenAs_toJson a⟩ .nil

theorem Module.isWrittenAs_toJson (m : Module) : m.IsWrittenAs m.toJson :=
  isRecord_of_forall₂ <|
    .cons ⟨rfl, AssemblyIdentity.isWrittenAs_toJson m.assembly⟩ <|
    .cons ⟨rfl, isArrayOf_map fun a _ => CustomAttribute.isWrittenAs_toJson a⟩ <|
    .cons ⟨rfl, isArrayOf_map fun t _ => TypeDef.isWrittenAs_toJson t⟩ .nil

/-- The JSON value of a dump is one of the ways to write it. -/
theorem Dump.isWrittenAs_toJson (d : Dump) : d.IsWrittenAs d.toJson :=
  isRecord_of_forall₂ <|
    .cons ⟨rfl, Module.isWrittenAs_toJson d.module⟩ <|
    .cons ⟨rfl, isArrayOf_map fun m _ => Module.isWrittenAs_toJson m⟩ .nil

/-! ## Texts -/

theorem hasText_orNull {α : Type} {f : α → Json} (h : ∀ a, (f a).HasText) (o : Option α) :
    (orNull f o).HasText := by
  cases o with
  | none => exact .null
  | some a => exact h a

theorem hasText_stringsJson (names : List String) : (stringsJson names).HasText := by
  simp [stringsJson]

theorem AssemblyIdentity.hasText_toJson (a : AssemblyIdentity) : a.toJson.HasText := by
  simp [toJson, hasText_orNull HasText.string]

theorem AttributeArg.hasText_toJson (a : AttributeArg) : a.toJson.HasText := by
  cases a <;> simp [toJson, value, hasText_orNull HasText.string]

theorem CustomAttribute.hasText_toJson (a : CustomAttribute) : a.toJson.HasText := by
  simp [toJson, AttributeArg.hasText_toJson]

theorem MemberRef.hasText_toJson (r : MemberRef) : r.toJson.HasText := by
  simp [toJson, hasText_orNull hasText_stringsJson]

theorem Method.hasText_toJson (m : Method) : m.toJson.HasText := by
  simp [toJson, hasText_stringsJson, MemberRef.hasText_toJson]

theorem TypeDef.hasText_toJson (t : TypeDef) : t.toJson.HasText := by
  simp [toJson, hasText_orNull HasText.string, hasText_stringsJson, Method.hasText_toJson,
    CustomAttribute.hasText_toJson]

theorem Module.hasText_toJson (m : Module) : m.toJson.HasText := by
  simp [toJson, AssemblyIdentity.hasText_toJson, CustomAttribute.hasText_toJson,
    TypeDef.hasText_toJson]

/-- The JSON value of a dump has a text. -/
theorem Dump.hasText_toJson (d : Dump) : d.toJson.HasText := by
  simp [toJson, Module.hasText_toJson]

/-- A dump is read from its text, on one line or on many, and from every text of the dump written in
another way: with the keys of records in another order, without fields that hold their default, with
unknown fields. -/
theorem Dump.ofText_eq_ok {dump : Dump} (hrange : dump.InRange)
    (hname : Text.trim dump.module.assembly.name.toList ≠ []) :
    Dump.ofText (compact dump.toJson).toList = .ok dump ∧
      Dump.ofText (pretty dump.toJson).toList = .ok dump ∧
      dump.IsWrittenAs dump.toJson ∧
      ∀ text j, read? text = some j → dump.IsWrittenAs j → Dump.ofText text = .ok dump := by
  have hread : ∀ text j, read? text = some j → dump.IsWrittenAs j →
      Dump.ofText text = .ok dump := by
    intro text j htext hj
    rw [Dump.ofText, htext]
    simp only [Dump.ofJson, reads_dump hrange j hj]
    rw [if_neg (by simpa using hname)]
  have hwritten := Dump.isWrittenAs_toJson dump
  have htext := Dump.hasText_toJson dump
  exact ⟨hread _ _ (read?_compact htext) hwritten, hread _ _ (read?_pretty htext) hwritten,
    hwritten, hread⟩

/-! ### A dump that is written sparsely -/

/-- A dump with a null string among its arguments. -/
def sparseDump : Dump where
  module :=
    { assembly := ⟨"S", none⟩
      attributes := [⟨"T", [.string none]⟩]
      types := [] }
  references := []

/-- The JSON of the attribute of the dump, with its keys in another order and without the value of
the argument. -/
def sparseAttribute : Json :=
  .object [("args", .array [.object [("kind", .string "string")]]), ("type_name", .string "T")]

/-- The JSON of the module of the dump, with its keys in another order and without defaults. -/
def sparseModule : Json :=
  .object [("attributes", .array [sparseAttribute]),
    ("assembly", .object [("name", .string "S")])]

/-- The JSON of the dump, with an unknown field. -/
def sparseJson : Json := .object [("new", .integer 1), ("module", sparseModule)]

/-- The text of the JSON of the dump. -/
def sparseText : List Char :=
  ("\x7b\"new\":1,\"module\":\x7b\"attributes\":[\x7b\"args\":[\x7b\"kind\":\"string\"\x7d]," ++
    "\"type_name\":\"T\"\x7d],\"assembly\":\x7b\"name\":\"S\"\x7d\x7d\x7d").toList

theorem isWrittenAs_sparseJson : sparseDump.IsWrittenAs sparseJson := by
  have harg : (AttributeArg.string none).IsWrittenAs (.object [("kind", .string "string")]) :=
    ⟨_, [], _, rfl, .refl _, .keep rfl (.leave rfl .nil), nofun⟩
  have hattribute : (⟨"T", [.string none]⟩ : CustomAttribute).IsWrittenAs sparseAttribute :=
    ⟨_, [], _, rfl, .swap _ _ _, .keep rfl (.keep ⟨_, rfl, .cons harg .nil⟩ .nil), nofun⟩
  have hassembly : sparseDump.module.assembly.IsWrittenAs (.object [("name", .string "S")]) :=
    ⟨_, [], _, rfl, .refl _, .keep rfl (.leave rfl .nil), nofun⟩
  have hmodule : sparseDump.module.IsWrittenAs sparseModule :=
    ⟨_, [], _, rfl, .swap _ _ _,
      .keep hassembly (.keep ⟨_, rfl, .cons hattribute .nil⟩ (.leave rfl .nil)), nofun⟩
  have hunknown : ∀ entry ∈ [("new", Json.integer 1)],
      entry.1 ∉ sparseDump.fields.map Field.key := by
    simp [Dump.fields, Field.required, Field.defaulted]
  exact ⟨_, _, _, rfl, .swap _ _ _, .keep hmodule (.leave rfl .nil), hunknown⟩

theorem Dump.ofText_eq_ok_sparseDump :
    sparseDump.InRange ∧ Text.trim sparseDump.module.assembly.name.toList ≠ [] ∧
      Dump.ofText (compact sparseDump.toJson).toList = .ok sparseDump ∧
      read? sparseText = some sparseJson ∧ sparseDump.IsWrittenAs sparseJson ∧
      Dump.ofText sparseText = .ok sparseDump := by
  have hrange : sparseDump.InRange := by
    simp [InRange, Module.InRange, CustomAttribute.InRange, AttributeArg.InRange, sparseDump]
  have hname : Text.trim sparseDump.module.assembly.name.toList ≠ [] := by decide +kernel
  have hsparse : sparseJson.HasText := by simp [sparseJson, sparseModule, sparseAttribute]
  have htext : sparseText = (compact sparseJson).toList := by decide +kernel
  have hread : read? sparseText = some sparseJson := htext ▸ read?_compact hsparse
  obtain ⟨hcompact, -, -, hwritten⟩ := Dump.ofText_eq_ok hrange hname
  exact ⟨hrange, hname, hcompact, hread, isWrittenAs_sparseJson,
    hwritten sparseText sparseJson hread isWrittenAs_sparseJson⟩

end PluginBuild.Metadata
