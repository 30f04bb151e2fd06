import Mathlib.Data.List.Forall2
import PluginBuild.Json.Reader
import PluginBuild.Proofs.Json.Token
/-!
# Reading printed values

What is printed is read back, on one line or on many (`read?_text`). A text is first cut into tokens
(`Lexes`), then a value is read of them (`Spells`). Both are stated with an arbitrary rest, so that
those of an array or object are put together from those of its parts.
-/

namespace PluginBuild.Json

/-- A value that a text can be of: it has no number in it whose value is unknown, and no unpaired
surrogate. -/
inductive HasText : Json → Prop
  | null : HasText .null
  | bool (value : Bool) : HasText (.bool value)
  | integer (value : Int) : HasText (.integer value)
  | string (value : String) : HasText (.string value)
  | array {values : List Json} (h : ∀ value ∈ values, HasText value) : HasText (.array values)
  | object {fields : List (String × Json)} (h : ∀ field ∈ fields, HasText field.2) :
    HasText (.object fields)

attribute [simp] HasText.null HasText.bool HasText.integer HasText.string

@[simp]
theorem hasText_array_iff {values : List Json} :
    HasText (.array values) ↔ ∀ value ∈ values, HasText value :=
  ⟨fun | .array h => h, .array⟩

@[simp]
theorem hasText_object_iff {fields : List (String × Json)} :
    HasText (.object fields) ↔ ∀ field ∈ fields, HasText field.2 :=
  ⟨fun | .object h => h, .object⟩

/-! ## Values -/

/-- The reader takes the tokens for the value wherever a value may stand. -/
def Spells (value : Json) (tokens : List Token) : Prop :=
  ∀ expected inside rest, expected = .value ∨ expected = .valueOrEnd →
    readFrom expected inside (tokens ++ rest) = readFrom (.afterValue value) inside rest

section Values

variable {value : Json} {values : List Json} {fields : List (String × Json)} {ts : List Token}
  {tss : List (List Token)}

theorem spells_scalar (value : Json) : Spells value [.scalar value] := by
  rintro _ inside rest (rfl | rfl) <;> rfl

theorem spells_string (s : String) : Spells (.string s) [.string (some s)] := by
  rintro _ inside rest (rfl | rfl) <;> rfl

theorem spells_array_nil : Spells (.array []) [.openArray, .closeArray] := by
  rintro _ inside rest (rfl | rfl) <;> rfl

theorem spells_object_nil : Spells (.object []) [.openObject, .closeObject] := by
  rintro _ inside rest (rfl | rfl) <;> rfl

/-- The items of an array that has some of them before. -/
theorem readFrom_items {expected : Expected}
    (hexpected : expected = .value ∨ expected = .valueOrEnd) (hvalue : Spells value ts)
    (hvalues : List.Forall₂ Spells values tss) (before : List Json) (inside : List Container)
    (rest : List Token) :
    readFrom expected (.array before :: inside)
        ([Token.comma].intercalate (ts :: tss) ++ .closeArray :: rest) =
      readFrom (.afterValue (.array (before.reverse ++ value :: values))) inside rest := by
  -- The reader carries the items before it, so the induction is over those that are to come.
  induction hvalues generalizing expected value ts before with
  | nil =>
    rw [List.intercalate_singleton, hvalue _ _ _ hexpected, readFrom]
    simp [step]
  | cons hnext _ ih =>
    rw [List.intercalate_cons_cons, List.append_assoc, List.append_assoc,
      hvalue _ _ _ hexpected, List.singleton_append, readFrom]
    simp only [step]
    rw [ih (.inl rfl) hnext]
    simp

theorem spells_array (h : List.Forall₂ Spells values tss) :
    Spells (.array values) (.openArray :: [Token.comma].intercalate tss ++ [.closeArray]) := by
  cases h with
  | nil => exact spells_array_nil
  | cons hvalue hvalues =>
    intro expected inside rest hexpected
    have hopen : ∀ tokens, readFrom expected inside (.openArray :: tokens) =
        readFrom .valueOrEnd (.array [] :: inside) tokens := by
      rcases hexpected with rfl | rfl <;> exact fun _ => rfl
    rw [List.cons_append, List.cons_append, hopen, List.append_assoc, List.singleton_append]
    exact readFrom_items (.inr rfl) hvalue hvalues [] inside rest

/-- The tokens are the key, a colon and those of the value. -/
def SpellsField (field : String × Json) (tokens : List Token) : Prop :=
  ∃ ts, tokens = .string (some field.1) :: .colon :: ts ∧ Spells field.2 ts

/-- A field whose key has been read. -/
def readField (field : String × Json) : Option String × Json := (some field.1, field.2)

theorem ofFields_readField (fields : List (String × Json)) :
    ofFields (fields.map readField) = .object fields.reverse := by
  have hkeys : ∀ fields : List (String × Json),
      (fields.map readField).mapM (fun field => field.1.map (·, field.2)) = some fields := by
    intro fields
    induction fields with
    | nil => rfl
    | cons field fields ih =>
      rw [List.map_cons, List.mapM_cons, ih]
      rfl
  rw [ofFields, ← List.map_reverse, hkeys]

/-- The fields of an object that has some of them before. -/
theorem readFrom_fields {expected : Expected} {key : String} (before : List (String × Json))
    (hexpected : ∀ key inside rest, readFrom expected inside (.string (some key) :: rest) =
      readFrom (.colon (before.map readField) (some key)) inside rest)
    (hvalue : Spells value ts) (hfields : List.Forall₂ SpellsField fields tss)
    (inside : List Container) (rest : List Token) :
    readFrom expected inside
        ([Token.comma].intercalate ((.string (some key) :: .colon :: ts) :: tss) ++
          .closeObject :: rest) =
      readFrom (.afterValue (.object (before.reverse ++ (key, value) :: fields))) inside rest := by
  induction hfields generalizing expected key value ts before with
  | nil =>
    have hobject := ofFields_readField ((key, value) :: before)
    rw [List.map_cons, List.reverse_cons] at hobject
    rw [List.intercalate_singleton, List.cons_append, hexpected, List.cons_append, readFrom]
    simp only [step]
    rw [hvalue _ _ _ (.inl rfl), readFrom]
    simp only [step]
    rw [← hobject]
    rfl
  | cons hnext _ ih =>
    obtain ⟨us, rfl, hnext⟩ := hnext
    rw [List.intercalate_cons_cons, List.append_assoc, List.append_assoc, List.cons_append,
      hexpected, List.cons_append, readFrom]
    simp only [step]
    rw [hvalue _ _ _ (.inl rfl), List.singleton_append, readFrom]
    simp only [step]
    rw [ih ((key, value) :: before) (fun _ _ _ => rfl) hnext, List.reverse_cons, List.append_assoc,
      List.singleton_append]

theorem spells_object (h : List.Forall₂ SpellsField fields tss) :
    Spells (.object fields) (.openObject :: [Token.comma].intercalate tss ++ [.closeObject]) := by
  cases h with
  | nil => exact spells_object_nil
  | cons hfield hfields =>
    obtain ⟨ts, rfl, hvalue⟩ := hfield
    intro expected inside rest hexpected
    have hopen : ∀ tokens, readFrom expected inside (.openObject :: tokens) =
        readFrom .keyOrEnd inside tokens := by
      rcases hexpected with rfl | rfl <;> exact fun _ => rfl
    rw [List.cons_append, List.cons_append, hopen, List.append_assoc, List.singleton_append]
    exact readFrom_fields [] (fun _ _ _ => rfl) hvalue hfields inside rest

end Values

/-! ## Texts -/

/-- Apart from the comma and the colon there are blanks only between the parts. -/
structure Setting.IsBlank (setting : Setting) : Prop where
  before : ∀ c ∈ setting.before.toList, isSpace c = true
  between : ∃ blanks, setting.between.toList = ',' :: blanks ∧ ∀ c ∈ blanks, isSpace c = true
  after : ∀ c ∈ setting.after.toList, isSpace c = true
  colon : ∃ blanks, setting.colon.toList = ':' :: blanks ∧ ∀ c ∈ blanks, isSpace c = true

namespace Setting.IsBlank

variable {setting : Setting} {parts : List String} {tss : List (List Token)}

/-- Parts with what stands between them are cut into the tokens of the parts, with commas. -/
theorem lexes_intercalate (hsetting : setting.IsBlank)
    (h : List.Forall₂ (Lexes ·.toList) parts tss) :
    Lexes (setting.between.intercalate parts).toList ([Token.comma].intercalate tss) := by
  obtain ⟨blanks, hbetween, hblanks⟩ := hsetting.between
  rw [String.toList_intercalate, hbetween]
  induction h with
  | nil => exact lexes_nil
  | @cons part ts parts tss hpart hparts ih =>
    cases hparts with
    | nil =>
      rw [List.map_singleton, List.intercalate_singleton, List.intercalate_singleton]
      exact hpart
    | cons _ _ =>
      rw [List.map_cons, List.map_cons, List.intercalate_cons_cons, List.intercalate_cons_cons,
        List.append_assoc, List.append_assoc]
      rw [List.map_cons] at ih
      refine hpart.append ((ih.blanks_append hblanks).mark_cons isMark_comma) fun rest _ => ?_
      exact isMark_comma.isApart _

theorem lexes_join (hsetting : setting.IsBlank) {opening closing : String} {o c : Char}
    {opened closed : Token} (hopening : opening.toList = [o]) (hclosing : closing.toList = [c])
    (hopen : IsMark o opened) (hclose : IsMark c closed)
    (h : List.Forall₂ (Lexes ·.toList) parts tss) :
    Lexes (setting.join opening closing parts).toList
      (opened :: [Token.comma].intercalate tss ++ [closed]) := by
  have hend : Lexes [c] [closed] := lexes_nil.mark_cons hclose
  cases h with
  | nil =>
    have htext : (setting.join opening closing []).toList = [o, c] := by
      simp [Setting.join, hopening, hclosing]
    rw [htext]
    exact hend.mark_cons hopen
  | @cons part ts parts tss hpart hparts =>
    have htext : (setting.join opening closing (part :: parts)).toList =
        o :: (setting.before.toList ++ ((setting.between.intercalate (part :: parts)).toList ++
          (setting.after.toList ++ [c]))) := by
      simp [Setting.join, hopening, hclosing]
    have happart : ∀ rest, IsApart rest → IsApart (setting.after.toList ++ [c] ++ rest) := by
      intro rest _
      rw [List.append_assoc]
      exact .blanks_append hsetting.after (hclose.isApart _)
    have hinner := (hsetting.lexes_intercalate (.cons hpart hparts)).append
      (hend.blanks_append hsetting.after) happart
    rw [htext]
    exact (hinner.blanks_append hsetting.before).mark_cons hopen

end Setting.IsBlank

section Texts

variable {setting : Nat → Setting} {value : Json} {values : List Json}
  {fields : List (String × Json)} {depth : Nat}

/-- A text is cut into tokens of which the value is read. -/
def IsTextOf (s : String) (value : Json) : Prop := ∃ ts, Lexes s.toList ts ∧ Spells value ts

theorem exists_texts (h : ∀ value ∈ values, IsTextOf (text setting depth value) value) :
    ∃ tss, List.Forall₂ (Lexes ·.toList) (texts setting depth values) tss ∧
      List.Forall₂ Spells values tss := by
  induction values with
  | nil => exact ⟨[], .nil, .nil⟩
  | cons value values ih =>
    rw [List.forall_mem_cons] at h
    obtain ⟨⟨ts, hlexes, hspells⟩, hrest⟩ := h
    obtain ⟨tss, htexts, hvalues⟩ := ih hrest
    rw [texts]
    exact ⟨ts :: tss, .cons hlexes htexts, .cons hspells hvalues⟩

theorem exists_fieldTexts (hsetting : (setting depth).IsBlank)
    (h : ∀ field ∈ fields, IsTextOf (text setting depth field.2) field.2) :
    ∃ tss, List.Forall₂ (Lexes ·.toList) (fieldTexts setting depth fields) tss ∧
      List.Forall₂ SpellsField fields tss := by
  induction fields with
  | nil => exact ⟨[], .nil, .nil⟩
  | cons field fields ih =>
    obtain ⟨key, value⟩ := field
    rw [List.forall_mem_cons] at h
    obtain ⟨⟨ts, hlexes, hspells⟩, hrest⟩ := h
    obtain ⟨tss, htexts, hfields⟩ := ih hrest
    obtain ⟨blanks, hcolon, hblanks⟩ := hsetting.colon
    have hfield : Lexes (quote key ++ (setting depth).colon ++ text setting depth value).toList
        (.string (some key) :: .colon :: ts) := by
      rw [String.toList_append, String.toList_append, hcolon, List.append_assoc]
      refine (lexes_quote key).append ((hlexes.blanks_append hblanks).mark_cons isMark_colon) ?_
      exact fun rest _ => isMark_colon.isApart _
    rw [fieldTexts]
    exact ⟨_ :: tss, .cons hfield htexts, .cons ⟨ts, rfl, hspells⟩ hfields⟩

/-- A value is read of the tokens of its text. -/
theorem isTextOf_text (hsetting : ∀ depth, (setting depth).IsBlank) (h : value.HasText) :
    IsTextOf (text setting depth value) value := by
  induction h generalizing depth with
  | null => exact ⟨_, lexes_null, spells_scalar .null⟩
  | bool b => exact ⟨_, lexes_bool b, spells_scalar (.bool b)⟩
  | integer n => exact ⟨_, lexes_integer n, spells_scalar (.integer n)⟩
  | string s => exact ⟨_, lexes_quote s, spells_string s⟩
  | array _ ih =>
    obtain ⟨tss, htexts, hvalues⟩ := exists_texts fun value hvalue => ih value hvalue
    rw [text]
    exact ⟨_, (hsetting depth).lexes_join rfl rfl isMark_openArray isMark_closeArray htexts,
      spells_array hvalues⟩
  | object _ ih =>
    obtain ⟨tss, htexts, hfields⟩ :=
      exists_fieldTexts (hsetting (depth + 1)) fun field hfield => ih field hfield
    rw [text]
    exact ⟨_, (hsetting depth).lexes_join rfl rfl isMark_openObject isMark_closeObject htexts,
      spells_object hfields⟩

/-- The text of a value is read as the value. -/
theorem read?_text (hsetting : ∀ depth, (setting depth).IsBlank) (h : value.HasText) :
    read? (text setting depth value).toList = some value := by
  have htext : IsTextOf (text setting depth value) value := isTextOf_text hsetting h
  obtain ⟨ts, hlexes, hspells⟩ := htext
  have htokens := hlexes [] .nil
  have hvalue := hspells .value [] [] (.inl rfl)
  rw [List.append_nil] at htokens hvalue
  rw [read?, htokens, tokens?, Option.map_some, Option.bind_some, List.append_nil, hvalue]
  rfl

theorem isBlank_compactSetting : compactSetting.IsBlank where
  before := by simp [compactSetting]
  between := ⟨[], rfl, nofun⟩
  after := by simp [compactSetting]
  colon := ⟨[], rfl, nofun⟩

/-- The text of a value on one line is read as the value. -/
theorem read?_compact (h : value.HasText) : read? (compact value).toList = some value :=
  read?_text (fun _ => isBlank_compactSetting) h

theorem isSpace_of_mem_line {c : Char} {n : Nat}
    (hc : c ∈ ("\n" ++ String.ofList (List.replicate n ' ')).toList) : isSpace c = true := by
  rw [String.toList_append, List.mem_append] at hc
  rcases hc with hc | hc
  · obtain rfl := List.mem_singleton.1 hc
    rfl
  · rw [String.toList_ofList] at hc
    obtain ⟨-, rfl⟩ := List.mem_replicate.1 hc
    rfl

theorem isBlank_prettySetting (depth : Nat) : (prettySetting depth).IsBlank where
  before _ := isSpace_of_mem_line
  between := ⟨_, String.toList_append, fun _ => isSpace_of_mem_line⟩
  after _ := isSpace_of_mem_line
  colon := ⟨[' '], show ": ".toList = [':', ' '] from rfl, by simp [isSpace]⟩

/-- The text of a value on many lines is read as the value. -/
theorem read?_pretty (h : value.HasText) : read? (pretty value).toList = some value :=
  read?_text isBlank_prettySetting h

end Texts

end PluginBuild.Json
