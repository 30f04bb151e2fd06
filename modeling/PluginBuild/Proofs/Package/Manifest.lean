import PluginBuild.Package.Manifest
import PluginBuild.Text.Cut
/-!
# Install manifests read back

A manifest is read as the host reads it: by lines, each cut at its first equals sign. Values are
written as they are, so what is read is what was stated exactly where no value has a line end in it
(`Manifest.fields_text_iff`). A reader may take a line feed alone for a line end or not.
-/

namespace PluginBuild.Text

variable {bare : Bool} {s rest : List Char} {c : Char}

/-- Lines with a character before the first one, which may end a line itself. -/
def consLine (bare : Bool) (c : Char) (lines : List (List Char)) : List (List Char) :=
  if bare = true ∧ c = '\n' then [] :: lines
  else match lines with
    | [] => [[c]]
    | line :: lines => (c :: line) :: lines

/-- The lines of a text without their line ends. A carriage return with a line feed is one, and a
line feed alone where `bare` says so. -/
def textLines (bare : Bool) : List Char → List (List Char)
  | [] => []
  | '\r' :: '\n' :: rest => [] :: textLines bare rest
  | c :: rest => consLine bare c (textLines bare rest)

/-- What ends a line of a manifest. -/
def lineEnd : List Char := "\r\n".toList

/-- The text has a line end in it. -/
def HasLineEnd (bare : Bool) (s : List Char) : Prop := lineEnd <:+: s ∨ bare = true ∧ '\n' ∈ s

instance (bare : Bool) (s : List Char) : Decidable (HasLineEnd bare s) :=
  inferInstanceAs (Decidable (_ ∨ _))

/-- A character that does not start a line end of two characters is put before the lines. -/
theorem textLines_cons (h : ¬(c = '\r' ∧ rest.head? = some '\n')) :
    textLines bare (c :: rest) = consLine bare c (textLines bare rest) := by
  rw [textLines]
  rintro tail rfl rfl
  exact h ⟨rfl, rfl⟩

theorem hasLineEnd_cons (h : ¬(c = '\r' ∧ rest.head? = some '\n')) :
    HasLineEnd bare (c :: rest) ↔ (bare = true ∧ c = '\n') ∨ HasLineEnd bare rest := by
  have hstart : ¬lineEnd <+: c :: rest := by
    rintro ⟨tail, htail⟩
    obtain ⟨rfl, rfl⟩ := List.cons.inj htail
    exact h ⟨rfl, rfl⟩
  unfold HasLineEnd
  rw [List.infix_cons_iff, or_iff_right hstart, List.mem_cons, and_or_left, or_left_comm,
    eq_comm (a := '\n')]

theorem not_hasLineEnd_nil (bare : Bool) : ¬HasLineEnd bare [] := by
  simp [HasLineEnd, lineEnd]

theorem consLine_append {lines more : List (List Char)} (h : lines ≠ []) :
    consLine bare c (lines ++ more) = consLine bare c lines ++ more := by
  obtain ⟨line, lines, rfl⟩ := List.exists_cons_of_ne_nil h
  unfold consLine
  split
  · rfl
  · rfl

theorem length_consLine_pos (bare : Bool) (c : Char) (lines : List (List Char)) :
    0 < (consLine bare c lines).length := by
  unfold consLine
  split
  · simp
  · split <;> simp

theorem textLines_ne_nil (h : s ≠ []) : textLines bare s ≠ [] := by
  fun_cases textLines bare s with
  | case1 => exact absurd rfl h
  | case2 => exact List.cons_ne_nil _ _
  | case3 c rest => exact List.ne_nil_of_length_pos (length_consLine_pos bare c _)

/-- What the recursion of `textLines` says of a character that starts no line end. -/
theorem not_starts (h : ∀ tail, c = '\r' → s = '\n' :: tail → False) :
    ¬(c = '\r' ∧ s.head? = some '\n') := by
  rintro ⟨hc, hhead⟩
  obtain ⟨tail, htail⟩ := List.head?_eq_some_iff.1 hhead
  exact h tail hc htail

theorem not_starts_append (h : ¬(c = '\r' ∧ s.head? = some '\n')) (rest : List Char) :
    ¬(c = '\r' ∧ (s ++ (lineEnd ++ rest)).head? = some '\n') := by
  rintro ⟨hc, hhead⟩
  cases s with
  | nil => cases hhead
  | cons d tail => exact h ⟨hc, hhead⟩

/-- What stands behind a line end is cut into lines by itself. -/
theorem textLines_append (s rest : List Char) :
    textLines bare (s ++ (lineEnd ++ rest)) =
      textLines bare (s ++ lineEnd) ++ textLines bare rest := by
  fun_induction textLines bare s with
  | case1 => rfl
  | case2 s ih =>
    change [] :: textLines bare (s ++ (lineEnd ++ rest)) = _
    rw [ih]
    rfl
  | case3 c s h ih =>
    have hend := not_starts_append (not_starts h) []
    rw [List.append_nil] at hend
    rw [List.cons_append, List.cons_append, textLines_cons (not_starts_append (not_starts h) rest),
      ih, textLines_cons hend, consLine_append (textLines_ne_nil (by simp [lineEnd]))]

/-- A text without a line end is a line of its own. -/
theorem textLines_of_not_hasLineEnd (h : ¬HasLineEnd bare s) :
    textLines bare (s ++ lineEnd) = [s] := by
  fun_induction textLines bare s with
  | case1 => rfl
  | case2 s ih => exact absurd (.inl ⟨[], s, rfl⟩) h
  | case3 c s hstart ih =>
    have hend := not_starts_append (not_starts hstart) []
    rw [List.append_nil] at hend
    rw [hasLineEnd_cons (not_starts hstart), not_or] at h
    rw [List.cons_append, textLines_cons hend, ih h.2, consLine, if_neg h.1]

/-- A text with a line end in it is more than one line. -/
theorem one_lt_length_textLines (h : HasLineEnd bare s) :
    1 < (textLines bare (s ++ lineEnd)).length := by
  have hsome : ∀ s, textLines bare (s ++ lineEnd) ≠ [] := fun s =>
    textLines_ne_nil (by simp [lineEnd])
  fun_induction textLines bare s with
  | case1 => exact absurd h (not_hasLineEnd_nil bare)
  | case2 s ih => exact Nat.succ_lt_succ (List.length_pos_iff.2 (hsome s))
  | case3 c s hstart ih =>
    have hend := not_starts_append (not_starts hstart) []
    rw [List.append_nil] at hend
    rw [hasLineEnd_cons (not_starts hstart)] at h
    obtain ⟨line, lines, hlines⟩ := List.exists_cons_of_ne_nil (hsome s)
    rw [List.cons_append, textLines_cons hend, hlines, consLine]
    split
    · exact Nat.succ_lt_succ (Nat.succ_pos _)
    · next hfeed =>
      have hrest := ih (h.resolve_left hfeed)
      rwa [hlines] at hrest

end PluginBuild.Text

namespace PluginBuild.Package.Manifest

open Text

variable {bare : Bool}

/-- The keys and values in a text: each line after the first, cut at its first equals sign. -/
def fields (bare : Bool) (text : List Char) : List (Option (List Char × List Char)) :=
  ((textLines bare text).drop 1).map (cutFirst? ['='])

/-- A key is a word without a line end and an equals sign. -/
def IsKey (key : String) : Prop := '=' ∉ key.toList ∧ '\r' ∉ key.toList ∧ '\n' ∉ key.toList

instance (key : String) : Decidable (IsKey key) := inferInstanceAs (Decidable (_ ∧ _))

theorem toList_line (entry : String × String) :
    (line entry).toList = entry.1.toList ++ '=' :: entry.2.toList ++ lineEnd := by
  simp [line, lineEnd]

theorem hasLineEnd_append {key : List Char} (hreturn : '\r' ∉ key) (hfeed : '\n' ∉ key)
    (value : List Char) : HasLineEnd bare (key ++ value) ↔ HasLineEnd bare value := by
  induction key with
  | nil => rfl
  | cons c key ih =>
    rw [List.mem_cons, not_or] at hreturn hfeed
    have hstart : ¬(c = '\r' ∧ (key ++ value).head? = some '\n') := fun h => hreturn.1 h.1.symm
    rw [List.cons_append, hasLineEnd_cons hstart, ih hreturn.2 hfeed.2]
    exact or_iff_right fun h => hfeed.1 h.2.symm

/-- A value has the line ends of its line. -/
theorem hasLineEnd_line {key : String} (h : IsKey key) (value : List Char) :
    HasLineEnd bare (key.toList ++ '=' :: value) ↔ HasLineEnd bare value := by
  have hstart : ¬('=' = '\r' ∧ value.head? = some '\n') := fun h => absurd h.1 (by decide)
  rw [hasLineEnd_append h.2.1 h.2.2, hasLineEnd_cons hstart]
  exact or_iff_right fun h => absurd h.2 (by decide)

/-- The line of a key is read as the key with its value, unless the value has a line end in it. -/
theorem map_textLines_line {entry : String × String} (h : IsKey entry.1)
    (hvalue : ¬HasLineEnd bare entry.2.toList) :
    (textLines bare (line entry).toList).map (cutFirst? ['=']) =
      [some (entry.1.toList, entry.2.toList)] := by
  rw [toList_line, textLines_of_not_hasLineEnd (mt (hasLineEnd_line h _).1 hvalue),
    List.map_singleton, cutFirst?_singleton h.1]

theorem textLines_join (entries : List (String × String)) :
    textLines bare (String.join (entries.map line)).toList =
      entries.flatMap fun entry => textLines bare (line entry).toList := by
  induction entries with
  | nil => rfl
  | cons entry entries ih =>
    rw [List.map_cons, String.join_cons, String.toList_append, toList_line, List.append_assoc,
      textLines_append, ih, List.flatMap_cons, toList_line]

/-- There are at least as many lines as there are keys. -/
theorem length_le_textLines (entries : List (String × String)) :
    entries.length ≤ (textLines bare (String.join (entries.map line)).toList).length := by
  rw [textLines_join]
  induction entries with
  | nil => exact Nat.le_refl _
  | cons entry entries ih =>
    have hline : textLines bare (line entry).toList ≠ [] :=
      textLines_ne_nil (by simp [toList_line])
    have hpos := List.length_pos_iff.2 hline
    rw [List.flatMap_cons, List.length_append, List.length_cons]
    omega

/-- Keys with their values are read as they were written exactly if no value has a line end. -/
theorem map_textLines_join_iff {entries : List (String × String)}
    (hkeys : ∀ entry ∈ entries, IsKey entry.1) :
    (textLines bare (String.join (entries.map line)).toList).map (cutFirst? ['=']) =
        entries.map (fun entry => some (entry.1.toList, entry.2.toList)) ↔
      ∀ entry ∈ entries, ¬HasLineEnd bare entry.2.toList := by
  induction entries with
  | nil => simp [textLines]
  | cons entry entries ih =>
    obtain ⟨hkey, hkeys⟩ := List.forall_mem_cons.1 hkeys
    rw [List.forall_mem_cons, ← ih hkeys, textLines_join, List.flatMap_cons, List.map_append,
      ← textLines_join, List.map_cons]
    -- A value with a line end in it makes more lines than there are keys.
    by_cases hvalue : HasLineEnd bare entry.2.toList
    · refine ⟨fun heq => ?_, fun h => absurd hvalue h.1⟩
      have hlength := congrArg List.length heq
      have hmany : 1 < (textLines bare (line entry).toList).length := by
        rw [toList_line]
        exact one_lt_length_textLines ((hasLineEnd_line hkey _).2 hvalue)
      have hrest := @length_le_textLines bare entries
      simp only [List.length_append, List.length_map, List.length_cons] at hlength
      omega
    · rw [map_textLines_line hkey hvalue, List.singleton_append, List.cons_inj_right]
      exact (and_iff_right hvalue).symm

/-- The heading is the first line of a manifest, and the others are its keys. -/
theorem textLines_text (m : Manifest) (file : String) :
    textLines bare (m.text file).toList =
      "[plugininstall]".toList ::
        textLines bare (String.join ((m.entries file).map line)).toList := by
  have htext : (m.text file).toList = "[plugininstall]".toList ++
      (lineEnd ++ (String.join ((m.entries file).map line)).toList) :=
    String.toList_append
  have hline : ¬HasLineEnd bare "[plugininstall]".toList := by
    have hplain := @hasLineEnd_append bare "[plugininstall]".toList (by decide +kernel)
      (by decide +kernel) []
    rw [List.append_nil] at hplain
    exact mt hplain.1 (not_hasLineEnd_nil bare)
  rw [htext, textLines_append, textLines_of_not_hasLineEnd hline, List.singleton_append]

theorem isKey_of_mem_entries {m : Manifest} {file : String} :
    ∀ entry ∈ m.entries file, IsKey entry.1 := by
  have hkeys : ∀ key ∈ ["type", "file", "description", "defaultdir", "version",
      "defaultextension"], IsKey key := by decide +kernel
  intro entry hentry
  refine hkeys _ ?_
  unfold entries at hentry
  rcases List.mem_append.1 hentry with hentry | hentry
  · have hmem := List.mem_map_of_mem (f := Prod.fst) hentry
    exact List.mem_append_left ["defaultextension"] hmem
  · split at hentry
    · rw [List.mem_singleton.1 hentry]
      exact List.mem_append_right ["type", "file", "description", "defaultdir", "version"]
        (List.mem_singleton_self _)
    · cases hentry

/-- What is read of the manifest of a module is what it states of the module, key by key, exactly
if none of the values has a line end in it. -/
theorem fields_text_iff (bare : Bool) (kind : PluginKind) (name : String)
    (module : Metadata.Module) (defaultExtension : Option String) (file : String) :
    let text := ((ofModule kind name module defaultExtension).text file).toList
    let stated : List (String × String) :=
      [("type", kind.extension .x86), ("file", file),
        ("description", module.description?.getD (name ++ " " ++ kind.name ++ " plugin")),
        ("defaultdir", name), ("version", module.fileVersion?.getD "1.0")] ++
      if kind = .packer then [("defaultextension", defaultExtension.getD (Text.lower name))] else []
    (textLines bare text).head? = some "[plugininstall]".toList ∧
      (fields bare text = stated.map (fun entry => some (entry.1.toList, entry.2.toList)) ↔
        ∀ entry ∈ stated, ¬HasLineEnd bare entry.2.toList) := by
  intro text stated
  have hlines := @textLines_text bare (ofModule kind name module defaultExtension) file
  refine ⟨by rw [hlines, List.head?_cons], ?_⟩
  rw [fields, hlines]
  exact map_textLines_join_iff isKey_of_mem_entries

/-- A module whose description goes on for a second line. -/
def describedModule : Metadata.Module :=
  { assembly := ⟨"Sample", none⟩
    attributes := [⟨"System.Reflection.AssemblyDescriptionAttribute",
      [.string (some "One\r\nversion=9")]⟩]
    types := [] }

/-- The second line of a description is read as a key of its own. -/
theorem exists_description_misread :
    describedModule.description? = some "One\r\nversion=9" ∧
      fields false ((ofModule .content "Sample" describedModule none).text "Sample.wdx").toList =
        [("type", "wdx"), ("file", "Sample.wdx"), ("description", "One"), ("version", "9"),
          ("defaultdir", "Sample"), ("version", "1.0")].map
          fun entry => some (entry.1.toList, entry.2.toList) := by
  decide +kernel

end PluginBuild.Package.Manifest
