import PluginBuild.Proofs.Files.Store
/-!
# What changes leave alone

The location to which a path leads can be read off the path, as far as all directories on the way
are there (`eq_target_of_locate`). So a relative path that never leads above where it starts, joined
to a directory, leads below that directory in every store (`exists_target_join`), and a change
through it leaves the files outside of the directory as they are (`agreesOn_put`).
-/

namespace PluginBuild.Files

/-- The location to which segments lead where all directories on the way are there. -/
def follow (location : Location) : List String → Location
  | [] => location
  | segment :: rest =>
    if segment = "" ∨ segment = "." then follow location rest
    else if segment = ".." then follow location.dropLast rest
    else follow (location ++ [segment]) rest

/-- The location of a place below a directory to which segments lead on from the place at `way`
below it, unless they lead above the directory at some point. -/
def descend? (way : Location) : List String → Option Location
  | [] => some way
  | segment :: rest =>
    if segment = "" ∨ segment = "." then descend? way rest
    else if segment = ".." then if way = [] then none else descend? way.dropLast rest
    else descend? (way ++ [segment]) rest

theorem follow_append (location : Location) (names more : List String) :
    follow location (names ++ more) = follow (follow location names) more := by
  induction names generalizing location with
  | nil => rfl
  | cons name names ih =>
    rw [List.cons_append, follow, follow]
    split_ifs <;> exact ih _

/-- Segments that never lead above a directory lead to the same place below every directory. -/
theorem follow_of_descend? {way below : Location} {names : List String}
    (h : descend? way names = some below) (location : Location) :
    follow (location ++ way) names = location ++ below := by
  induction names generalizing way with
  | nil =>
    rw [descend?, Option.some.injEq] at h
    rw [follow, h]
  | cons name names ih =>
    rw [descend?] at h
    rw [follow]
    split_ifs at h ⊢ with hdot hup hempty
    · exact ih h
    · rw [List.dropLast_append_of_ne_nil hempty]
      exact ih h
    · rw [List.append_assoc]
      exact ih h

namespace Path

/-- The path is relative and leads at no point above where it starts. -/
def StaysBelow (p : Path) : Prop := p.isAbsolute = false ∧ (descend? [] p.segments).isSome = true

instance (p : Path) : Decidable p.StaysBelow := inferInstanceAs (Decidable (_ ∧ _))

/-- The path stays below where it starts and ends in a name. -/
def NamesFile (p : Path) : Prop := p.StaysBelow ∧ ∃ ending, p.HasEnding ending

theorem segments_append_slash (front back : String) :
    (⟨front ++ "/" ++ back⟩ : Path).segments =
      (⟨front⟩ : Path).segments ++ (⟨back⟩ : Path).segments := by
  simp only [segments, String.toList_append, List.append_assoc]
  change ((front.toList ++ '/' :: back.toList).splitOnP (· == '/')).map String.ofList = _
  rw [List.splitOnP_append_cons _ _ (by decide), List.map_append]
  rfl

/-- Where a relative path is joined on, its segments come after the others. An empty segment may
stand between them, which says nothing. -/
theorem exists_segments_join (p : Path) {other : Path} (h : other.isAbsolute = false) :
    (p.join other).isAbsolute = p.isAbsolute ∧
      ∀ location, follow location (p.join other).segments =
        follow (follow location p.segments) other.segments := by
  have hblank : ∀ location, follow location (⟨""⟩ : Path).segments = location := fun _ => rfl
  have hslash : ∀ front : String,
      (⟨front ++ "/" ++ other.text⟩ : Path).isAbsolute = (⟨front ++ "/"⟩ : Path).isAbsolute := by
    intro front
    simp only [isAbsolute, String.toList_append]
    cases front.toList <;> rfl
  unfold join
  rw [if_neg (by simp [h])]
  by_cases hempty : p.text = ""
  · obtain ⟨text⟩ := p
    obtain rfl : text = "" := hempty
    refine ⟨h, fun location => ?_⟩
    rw [hblank]
    simp
  by_cases hlast : p.text.toList.getLast? = some '/'
  · -- The text that is joined on stands behind the slash at the end.
    obtain ⟨text⟩ := p
    obtain ⟨front, hfront⟩ := List.getLast?_eq_some_iff.1 hlast
    obtain rfl : text = String.ofList front ++ "/" := by
      rw [← String.toList_inj, hfront, String.toList_append, String.toList_ofList]
      rfl
    rw [if_pos (by simp)]
    refine ⟨hslash _, fun location => ?_⟩
    have hfirst : (⟨String.ofList front ++ "/"⟩ : Path).segments =
        (⟨String.ofList front⟩ : Path).segments ++ (⟨""⟩ : Path).segments := by
      rw [← segments_append_slash, String.append_empty]
    rw [segments_append_slash, follow_append, hfirst, follow_append, hblank]
  · rw [if_neg (by simpa using ⟨hempty, hlast⟩)]
    refine ⟨?_, fun location => ?_⟩
    · rw [hslash]
      simp only [isAbsolute, String.toList_append]
      cases hp : p.text.toList with
      | nil => exact absurd (String.toList_inj.1 (hp.trans rfl)) hempty
      | cons c rest => rfl
    · rw [segments_append_slash, follow_append]

end Path

namespace Store

variable {s s' : Store} {p q : Path} {location other : Location} {content : Content}

/-- The location to which a path leads where all directories on the way are there. -/
def target (s : Store) (p : Path) : Location := follow (s.start p) p.segments

theorem eq_follow_of_walk {start : Location} {names : List String}
    (h : s.walk start names = .ok location) : location = follow start names := by
  induction names generalizing start with
  | nil => exact (Except.ok.inj h).symm
  | cons name names ih =>
    obtain ⟨-, next, hnext, hrest⟩ := walk_cons_eq_ok_iff.1 h
    rw [follow]
    unfold Leads at hnext
    split_ifs at hnext ⊢
    · rw [← hnext]
      exact ih hrest
    · rw [← hnext]
      exact ih hrest
    · rw [← hnext.2]
      exact ih hrest

/-- A path leads nowhere else than to where it would lead if all directories were there. -/
theorem eq_target_of_locate (h : s.locate p = .ok location) : location = s.target p := by
  rw [locate] at h
  rcases hf : p.fault? with _ | _
  · simp only [hf] at h
    split_ifs at h
    exact eq_follow_of_walk h
  · simp [hf] at h

theorem target_congr (h : s'.workingDirectory = s.workingDirectory) (p : Path) :
    s'.target p = s.target p := by
  rw [target, target, start, start, h]

/-- A path that stays below where it starts and ends in a name leads to a place below every
directory that it is joined to. -/
theorem exists_target_join (s : Store) (work : Path) (h : p.NamesFile) :
    ∃ below name, s.target (work.join p) = s.target work ++ below ++ [name] := by
  obtain ⟨⟨hrelative, hstays⟩, ending, hending⟩ := h
  obtain ⟨place, hplace⟩ := Option.isSome_iff_exists.1 hstays
  obtain ⟨habsolute, hfollow⟩ := work.exists_segments_join hrelative
  obtain ⟨before, last, hsegments, hlast⟩ := hending.exists_segments_eq
  have hlong := Nat.lt_of_lt_of_le hending.long hlast.length_le
  have hproper : ∀ short : String, short.toList.length ≤ 2 → last ≠ short := by
    rintro short hshort rfl
    omega
  have hname : ∀ location, follow location [last] = location ++ [last] := by
    intro location
    simp [follow, hproper "" (by simp), hproper "." (by simp), hproper ".." (by simp)]
  -- What the path adds to a directory is the same for the directory and for the root.
  have hbelow : place = follow [] before ++ [last] := by
    have hroot := follow_of_descend? hplace []
    rw [hsegments, follow_append, hname] at hroot
    exact hroot.symm
  refine ⟨follow [] before, last, ?_⟩
  have hwork := follow_of_descend? hplace (s.target work)
  rw [List.append_nil, hbelow, ← List.append_assoc] at hwork
  rw [target, start, habsolute, hfollow]
  exact hwork

/-! ## Files of a store -/

/-- What the file at a location holds, and whether it can be run. -/
def file? (s : Store) (location : Location) : Option (Content × Bool) :=
  match s.node? location with
  | some (.file content executable) => some (content, executable)
  | _ => none

theorem file?_congr (h : s'.node? location = s.node? location) :
    s'.file? location = s.file? location := by
  rw [file?, file?, h]

theorem file?_put_of_ne {node : Node} (h : s.node? location ≠ some .directory)
    (hne : other ≠ location) : (s.put location node).file? other = s.file? other :=
  file?_congr (node?_put_of_ne h hne)

/-- What is cleared away is at a location or below it. -/
theorem file?_removeTree (h : ¬location <+: other) :
    (s.removeTree location).file? other = s.file? other := by
  refine file?_congr ?_
  have hlookup : ∀ nodes : List (Location × Node),
      (nodes.filter fun entry => !location.isPrefixOf entry.1).lookup other =
        nodes.lookup other := by
    intro nodes
    induction nodes with
    | nil => rfl
    | cons entry rest ih =>
      by_cases hentry : entry.1 = other
      · have hkept : (!location.isPrefixOf entry.1) = true := by
          rw [hentry, Bool.not_eq_true', ← Bool.not_eq_true, List.isPrefixOf_iff_prefix]
          exact h
        rw [List.filter_cons_of_pos (by exact hkept), List.lookup_cons, List.lookup_cons, hentry,
          beq_self_eq_true]
      · have hne : (other == entry.1) = false := beq_eq_false_iff_ne.2 (Ne.symm hentry)
        rw [List.filter_cons, List.lookup_cons, hne]
        split_ifs
        · rw [List.lookup_cons, hne, ih]
        · exact ih
  unfold node? removeTree
  rw [hlookup]

/-- Making directories changes no file. -/
theorem file?_makeAlong (made : Bool) (start : Location) (names : List String) :
    (s.makeAlong made start names).2.file? other = s.file? other := by
  induction names generalizing s made start with
  | nil => rfl
  | cons name names ih =>
    rw [makeAlong]
    by_cases hdot : name = "" ∨ name = "."
    · rw [if_pos hdot]
      exact ih made start
    by_cases hup : name = ".."
    · rw [if_neg hdot, if_pos hup]
      exact ih made start.dropLast
    by_cases hlong : Path.longestName < name.utf8ByteSize
    · rw [if_neg hdot, if_neg hup, if_pos hlong]
    rw [if_neg hdot, if_neg hup, if_neg hlong]
    rcases hn : s.node? (start ++ [name]) with _ | _ | _
    · have hput : s.node? (start ++ [name]) ≠ some .directory := by simp [hn]
      simp only [hn]
      rw [ih true (start ++ [name])]
      by_cases hother : other = start ++ [name]
      · rw [hother, file?, file?, node?_put_self hput, hn]
      · exact file?_put_of_ne hput hother
    · simpa only [hn] using ih made (start ++ [name])
    · simp only [hn]

/-- The files at the locations that are kept are the same in two stores, as is the working
directory. -/
structure AgreesOn (kept : Location → Prop) (s s' : Store) : Prop where
  workingDirectory : s'.workingDirectory = s.workingDirectory
  file?_eq : ∀ location, kept location → s'.file? location = s.file? location

namespace AgreesOn

variable {kept : Location → Prop}

theorem refl (kept : Location → Prop) (s : Store) : AgreesOn kept s s := ⟨rfl, fun _ _ => rfl⟩

theorem trans {s'' : Store} (h : AgreesOn kept s s') (h' : AgreesOn kept s' s'') :
    AgreesOn kept s s'' :=
  ⟨h'.workingDirectory.trans h.workingDirectory,
    fun location hl => (h'.file?_eq location hl).trans (h.file?_eq location hl)⟩

end AgreesOn

theorem agreesOn_makeDirectories (kept : Location → Prop) (s : Store) (p : Path) :
    AgreesOn kept s (s.makeDirectories p).2 := by
  unfold makeDirectories
  rcases p.fault? with _ | _
  · exact ⟨(makeAlong_keeps false (s.start p) p.segments).1.workingDirectory,
      fun _ _ => file?_makeAlong false (s.start p) p.segments⟩
  · exact .refl kept s

/-- A file is put where a path leads to and nowhere else. -/
theorem agreesOn_put {executable : Bool} (hl : s.locate p = .ok location)
    (hn : s.node? location ≠ some .directory) {kept : Location → Prop}
    (hkept : ∀ other, kept other → other ≠ s.target p) :
    AgreesOn kept s (s.put location (.file content executable)) := by
  refine ⟨rfl, fun other hother => file?_put_of_ne hn ?_⟩
  rw [eq_target_of_locate hl]
  exact hkept other hother

end Store

end PluginBuild.Files
