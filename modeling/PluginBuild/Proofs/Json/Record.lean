import Mathlib.Data.List.Forall2
import PluginBuild.Json.Value
/-!
# How values are written

What a value may look like in JSON that is to be read back: a record is an object of its fields in
any order, where fields may be missing that hold their default and unknown keys may stand between
(`IsRecord`). The readers take the value out again whichever way it is written
(`exists_of_isRecord`).
-/

namespace PluginBuild.Json

/-- A value is taken out of whatever it may be written as. -/
def Reads {α : Type} (item? : Json → Option α) (a : α) (written : Json → Prop) : Prop :=
  ∀ j, written j → item? j = some a

/-! ## Texts, flags and arrays -/

section Values

variable {α : Type} {item? : Json → Option α} {W : α → Json → Prop}

/-- A text is written as a string. -/
def IsText (s : String) (j : Json) : Prop := j = .string s

/-- A truth value is written as one. -/
def IsFlag (b : Bool) (j : Json) : Prop := j = .bool b

/-- A value that may be missing is written as null if it is. -/
def IsOrNull (W : α → Json → Prop) : Option α → Json → Prop
  | none, j => j = .null
  | some a, j => W a j

/-- A list is written as the array of what its items are written as. -/
def IsArrayOf (W : α → Json → Prop) (xs : List α) (j : Json) : Prop :=
  ∃ values, j = .array values ∧ List.Forall₂ W xs values

theorem reads_text (s : String) : Reads text? s (IsText s) := by
  rintro _ rfl
  rfl

theorem reads_flag (b : Bool) : Reads flag? b (IsFlag b) := by
  rintro _ rfl
  rfl

theorem reads_nullable {o : Option α} (hnull : item? .null = none)
    (h : ∀ a ∈ o, Reads item? a (W a)) : Reads (nullable? item?) o (IsOrNull W o) := by
  intro j hj
  cases o with
  | none =>
    obtain rfl := hj
    rfl
  | some a =>
    have hitem := h a rfl j hj
    cases j with
    | null => rw [hnull] at hitem; cases hitem
    | _ => rw [nullable?, hitem, Option.map_some]; exact nofun

theorem reads_list {xs : List α} (h : ∀ a ∈ xs, Reads item? a (W a)) :
    Reads (list? item?) xs (IsArrayOf W xs) := by
  rintro _ ⟨values, rfl, hvalues⟩
  rw [list?]
  induction hvalues with
  | nil => rfl
  | cons hvalue _ ih =>
    rw [List.forall_mem_cons] at h
    rw [List.mapM_cons, h.1 _ hvalue, ih h.2]
    rfl

theorem isArrayOf_map {f : α → Json} {xs : List α} (h : ∀ a ∈ xs, W a (f a)) :
    IsArrayOf W xs (.array (xs.map f)) :=
  ⟨_, rfl, List.forall₂_map_right_iff.2 (List.forall₂_same.2 h)⟩

end Values

/-! ## Records -/

/-- A field of a record: its key, whether the record has the default there, and what it may be
written as. -/
structure Field where
  key : String
  isDefault : Prop
  written : Json → Prop

namespace Field

variable {α : Type} {key : String} {default a : α} {W : α → Json → Prop}
  {item? : Json → Option α} {value : Option Json}

/-- A field that a record must have. -/
def required (key : String) (written : Json → Prop) : Field := ⟨key, False, written⟩

/-- A field that has a default. -/
def defaulted (key : String) (default a : α) (W : α → Json → Prop) : Field :=
  ⟨key, a = default, W a⟩

/-- What stands in an object for the field, if anything does, is right. -/
def IsWrittenAs (field : Field) : Option Json → Prop
  | none => field.isDefault
  | some j => field.written j

theorem required?_eq (hitem : Reads item? a (W a))
    (h : (required key (W a)).IsWrittenAs value) : required? item? value = some a := by
  cases value with
  | none => exact h.elim
  | some j => exact hitem j h

theorem defaulted?_eq (hitem : Reads item? a (W a))
    (h : (defaulted key default a W).IsWrittenAs value) :
    defaulted? default item? value = some a := by
  cases value with
  | none => exact congrArg some (Eq.symm h)
  | some j => exact hitem j h

end Field

/-- The entries are those of the fields, in their order. Fields that hold their default may be left
out. -/
inductive HasEntries : List Field → List (String × Json) → Prop
  | nil : HasEntries [] []
  | keep {field fields j entries} (hj : field.written j) (h : HasEntries fields entries) :
    HasEntries (field :: fields) ((field.key, j) :: entries)
  | leave {field fields entries} (hdefault : field.isDefault) (h : HasEntries fields entries) :
    HasEntries (field :: fields) entries

/-- An object with the entries of a record and unknown ones, in any order. -/
def IsRecord (fields : List Field) (j : Json) : Prop :=
  ∃ known unknown entries, j = .object entries ∧ entries.Perm (known ++ unknown) ∧
    HasEntries fields known ∧ ∀ entry ∈ unknown, entry.1 ∉ fields.map Field.key

section Records

variable {fields : List Field} {entries others : List (String × Json)} {key : String} {j : Json}

theorem HasEntries.key_mem (h : HasEntries fields entries) {entry : String × Json}
    (hentry : entry ∈ entries) : entry.1 ∈ fields.map Field.key := by
  induction h with
  | nil => cases hentry
  | keep _ _ ih =>
    rw [List.map_cons, List.mem_cons]
    rcases List.mem_cons.1 hentry with rfl | hentry
    · exact .inl rfl
    · exact .inr (ih hentry)
  | leave _ _ ih => exact List.mem_cons_of_mem _ (ih hentry)

theorem unique?_eq_none (h : ∀ entry ∈ entries, entry.1 ≠ key) :
    unique? entries key = some none := by
  have hfilter : entries.filter (·.1 = key) = [] := by simpa using h
  rw [unique?, hfilter]

theorem unique?_append (h : ∀ entry ∈ others, entry.1 ≠ key) :
    unique? (entries ++ others) key = unique? entries key := by
  have hfilter : others.filter (·.1 = key) = [] := by simpa using h
  rw [unique?, List.filter_append, hfilter, List.append_nil, unique?]

theorem unique?_cons_of_ne {entry : String × Json} (h : entry.1 ≠ key) :
    unique? (entry :: entries) key = unique? entries key := by
  rw [unique?, List.filter_cons_of_neg (by simpa using h), unique?]

/-- The order of the entries of an object does not matter. -/
theorem unique?_perm (h : entries.Perm others) : unique? entries key = unique? others key := by
  have hfilter := h.filter (·.1 = key)
  unfold unique?
  -- Nothing, one entry, or several of the key are left in both orders.
  generalize entries.filter (·.1 = key) = left at hfilter
  generalize others.filter (·.1 = key) = right at hfilter
  match left, right, hfilter.length_eq with
  | [], [], _ => rfl
  | [_], [_], _ => rw [List.singleton_perm_singleton.1 hfilter]
  | _ :: _ :: _, _ :: _ :: _, _ => rfl

theorem IsRecord.exists_object (h : IsRecord fields j) : ∃ entries, j = .object entries :=
  let ⟨_, _, entries, hj, _⟩ := h
  ⟨entries, hj⟩

theorem HasEntries.exists_unique? (h : HasEntries fields entries)
    (hkeys : (fields.map Field.key).Nodup) {field : Field} (hfield : field ∈ fields) :
    ∃ value, unique? entries field.key = some value ∧ field.IsWrittenAs value := by
  induction h with
  | nil => cases hfield
  | @keep first fields j entries hj h ih =>
    rw [List.map_cons, List.nodup_cons] at hkeys
    rcases List.mem_cons.1 hfield with rfl | hfield
    · refine ⟨some j, ?_, hj⟩
      have hrest : entries.filter (·.1 = field.key) = [] := by
        rw [List.filter_eq_nil_iff]
        intro entry hentry hkey
        exact hkeys.1 (of_decide_eq_true hkey ▸ h.key_mem hentry)
      rw [unique?, List.filter_cons_of_pos (by simp), hrest]
    · have hne : first.key ≠ field.key :=
        fun heq => hkeys.1 (heq ▸ List.mem_map_of_mem hfield)
      rw [unique?_cons_of_ne hne]
      exact ih hkeys.2 hfield
  | @leave first fields entries hdefault h ih =>
    rw [List.map_cons, List.nodup_cons] at hkeys
    rcases List.mem_cons.1 hfield with rfl | hfield
    · refine ⟨none, unique?_eq_none fun entry hentry hkey => ?_, hdefault⟩
      exact hkeys.1 (hkey ▸ h.key_mem hentry)
    · exact ih hkeys.2 hfield

/-- Each field of a record is found in an object that it is written as, or holds its default. -/
theorem IsRecord.exists_unique? (h : IsRecord fields (.object entries))
    (hkeys : (fields.map Field.key).Nodup) {field : Field} (hfield : field ∈ fields) :
    ∃ value, unique? entries field.key = some value ∧ field.IsWrittenAs value := by
  obtain ⟨known, unknown, _, hentries, hperm, hknown, hunknown⟩ := h
  obtain rfl := Json.object.inj hentries
  have hothers : ∀ entry ∈ unknown, entry.1 ≠ field.key :=
    fun entry hentry hkey => hunknown entry hentry (hkey ▸ List.mem_map_of_mem hfield)
  rw [unique?_perm hperm, unique?_append hothers]
  exact hknown.exists_unique? hkeys hfield

/-- A record is taken out of what it is written as: its fields in their order, each as it is written
or missing because it holds its default. -/
theorem exists_of_isRecord (keys : List String) (h : IsRecord fields j)
    (hkeys : fields.map Field.key = keys) (hnodup : keys.Nodup) :
    ∃ values, record? keys j = some values ∧ List.Forall₂ Field.IsWrittenAs fields values := by
  obtain rfl := hkeys
  obtain ⟨entries, rfl⟩ := h.exists_object
  have hunique : ∀ field ∈ fields,
      ∃ value, unique? entries field.key = some value ∧ field.IsWrittenAs value :=
    fun _ hfield => h.exists_unique? hnodup hfield
  rw [record?]
  clear h hnodup
  induction fields with
  | nil => exact ⟨[], rfl, .nil⟩
  | cons field fields ih =>
    rw [List.forall_mem_cons] at hunique
    obtain ⟨value, hvalue, hwritten⟩ := hunique.1
    obtain ⟨values, hvalues, hrest⟩ := ih hunique.2
    refine ⟨value :: values, ?_, .cons hwritten hrest⟩
    rw [List.map_cons, List.mapM_cons, hvalue, hvalues]
    rfl

/-- An object with all fields in their order is one that the record is written as. -/
theorem isRecord_of_forall₂
    (h : List.Forall₂ (fun field entry => entry.1 = field.key ∧ field.written entry.2)
      fields entries) : IsRecord fields (.object entries) := by
  refine ⟨entries, [], entries, rfl, by simp, ?_, nofun⟩
  induction h with
  | nil => exact .nil
  | @cons field entry fields entries hentry _ ih =>
    obtain ⟨key, j⟩ := entry
    obtain ⟨rfl, hj⟩ := hentry
    exact .keep hj ih

end Records

end PluginBuild.Json
