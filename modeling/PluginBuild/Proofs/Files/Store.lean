import PluginBuild.Files.Store
import Mathlib.Tactic.SplitIfs
/-!
# Stores that change

A file that is read stays what it is through every change of a store that keeps directories and the
node of the file (`read_of_extends`). What is written is read again (`read_write`), and writing
keeps what other locations hold (`read_write_of_locate_ne`). Two paths lead to different locations
where neither of two endings of them ends with the other (`locate_ne_locate`).
-/

namespace PluginBuild.Files

namespace Path

/-- A path ends with `ending`, which is the end of a name and of no dot segment. -/
structure HasEnding (p : Path) (ending : List Char) : Prop where
  suffix : ending <:+ p.text.toList
  noSlash : '/' ∉ ending
  long : 2 < ending.length

/-- The last segment of a path ends as the path does. -/
theorem HasEnding.exists_segments_eq {p : Path} {ending : List Char} (h : p.HasEnding ending) :
    ∃ before last, p.segments = before ++ [last] ∧ ending <:+ last.toList := by
  obtain ⟨⟨front, hfront⟩, hslash, -⟩ := h
  suffices hsplit : ∃ before last, (front ++ ending).splitOn '/' = before ++ [last] ∧
      ending <:+ last by
    obtain ⟨before, last, heq, hlast⟩ := hsplit
    refine ⟨before.map String.ofList, String.ofList last, ?_, by simpa using hlast⟩
    rw [segments, ← hfront, heq, List.map_append, List.map_singleton]
  clear hfront
  induction front with
  | nil =>
    refine ⟨[], ending, ?_, List.suffix_refl _⟩
    refine List.splitOnP_eq_singleton fun c hc => ?_
    have hc : c ≠ '/' := fun h => hslash (h ▸ hc)
    simpa using hc
  | cons c front ih =>
    obtain ⟨before, last, heq, hlast⟩ := ih
    rw [List.splitOn] at heq
    by_cases hc : c = '/'
    · refine ⟨[] :: before, last, ?_, hlast⟩
      simp [List.splitOn, List.splitOnP_cons_eq_if_modifyHead, hc, heq]
    · cases before with
      | nil =>
        refine ⟨[], c :: last, ?_, hlast.trans (List.suffix_cons c last)⟩
        simp [List.splitOn, List.splitOnP_cons_eq_if_modifyHead, hc, heq]
      | cons first before =>
        refine ⟨(c :: first) :: before, last, ?_, hlast⟩
        simp [List.splitOn, List.splitOnP_cons_eq_if_modifyHead, hc, heq]

/-- A joined path ends as the path does that was joined on. -/
theorem HasEnding.join {other : Path} {ending : List Char} (h : other.HasEnding ending)
    (p : Path) : (p.join other).HasEnding ending := by
  refine ⟨h.suffix.trans ?_, h.noSlash, h.long⟩
  unfold Path.join
  split_ifs
  · exact List.suffix_refl _
  · rw [String.toList_append]
    exact List.suffix_append _ _
  · rw [String.toList_append]
    exact List.suffix_append _ _

/-- A path that does not end with a slash has none to lose. -/
theorem withoutEndSlash_eq {p : Path} (h : p.endsWithSlash = false) : p.withoutEndSlash = p := by
  have hdrop : (p.text.toList.reverse.dropWhile (· = '/')).reverse = p.text.toList := by
    rw [endsWithSlash, ← List.head?_reverse] at h
    cases hr : p.text.toList.reverse with
    | nil => simpa using hr.symm
    | cons c rest =>
      rw [hr, List.head?_cons] at h
      have hc : c ≠ '/' := by simpa using h
      rw [List.dropWhile_cons_of_neg (by simpa using hc), ← hr, List.reverse_reverse]
  unfold withoutEndSlash
  simp only [hdrop]
  rw [if_neg, String.ofList_toList]
  rintro ⟨hempty, habsolute⟩
  rw [isAbsolute, List.isEmpty_iff.1 hempty] at habsolute
  cases habsolute

end Path

namespace Store

variable {s s' : Store} {p q : Path} {location other : Location} {content c : Content}

theorem node?_root (s : Store) : s.node? [] = some .directory := rfl

theorem read_eq_ok_iff : s.read p = .ok content ↔
    ∃ location executable, s.locate p = .ok location ∧
      s.node? location = some (.file content executable) := by
  unfold read find
  rcases s.locate p with _ | location
  · simp [bind, Except.bind]
  · rcases hn : s.node? location with _ | _ | ⟨held, executable⟩
    · simp [bind, Except.bind, hn]
    · simp [bind, Except.bind, hn]
    · constructor
      · intro h
        obtain rfl : held = content := by simpa [bind, Except.bind, hn] using h
        exact ⟨location, executable, rfl, hn⟩
      · rintro ⟨other, mode, hlocation, hother⟩
        obtain rfl : location = other := Except.ok.inj hlocation
        rw [hn] at hother
        cases hother
        simp [bind, Except.bind, hn]

/-- A file that is read is there. -/
theorem contains_of_readText {text : List Char} (h : s.readText p = .ok text) :
    s.contains p = true := by
  unfold readText read at h
  unfold contains
  cases hfind : s.find p with
  | error failure =>
    rw [hfind] at h
    cases h
  | ok node => rfl

/-- The directories of a store are directories of another one with the same working directory. -/
structure Extends (s s' : Store) : Prop where
  workingDirectory : s'.workingDirectory = s.workingDirectory
  directories : ∀ location, s.node? location = some .directory →
    s'.node? location = some .directory

theorem Extends.refl (s : Store) : Extends s s := ⟨rfl, fun _ h => h⟩

theorem Extends.trans {s'' : Store} (h : Extends s s') (h' : Extends s' s'') : Extends s s'' :=
  ⟨h'.workingDirectory.trans h.workingDirectory,
    fun location hd => h'.directories location (h.directories location hd)⟩

/-- A name leads from a location to another. -/
def Leads (start : Location) (name : String) (next : Location) : Prop :=
  if name = "" ∨ name = "." then next = start
  else if name = ".." then next = start.dropLast
  else name.utf8ByteSize ≤ Path.longestName ∧ next = start ++ [name]

theorem walk_cons_eq_ok_iff {start : Location} {name : String} {names : List String} :
    s.walk start (name :: names) = .ok location ↔ s.node? start = some .directory ∧
      ∃ next, Leads start name next ∧ s.walk next names = .ok location := by
  rw [walk]
  rcases s.node? start with _ | _ | _
  · simp
  · simp only [true_and]
    unfold Leads
    split_ifs with hdot hup hlong
    · simp
    · simp
    · simp [Nat.not_le_of_lt hlong]
    · simp [Nat.le_of_not_lt hlong]
  · simp

theorem Extends.walk (h : Extends s s') {names : List String} {start : Location}
    (hw : s.walk start names = .ok location) : s'.walk start names = .ok location := by
  induction names generalizing start with
  | nil => simpa only [Store.walk] using hw
  | cons name names ih =>
    obtain ⟨hd, next, hnext, hrest⟩ := walk_cons_eq_ok_iff.1 hw
    exact walk_cons_eq_ok_iff.2 ⟨h.directories start hd, next, hnext, ih hrest⟩

theorem Extends.locate (h : Extends s s') (hl : s.locate p = .ok location) :
    s'.locate p = .ok location := by
  have hstart : s'.start p = s.start p := by rw [Store.start, Store.start, h.workingDirectory]
  rw [Store.locate] at hl ⊢
  rcases hf : p.fault? with _ | _
  · simp only [hf] at hl ⊢
    split_ifs at hl ⊢
    rw [hstart]
    exact h.walk hl
  · simp [hf] at hl

/-- A file stays as it is where a store is changed elsewhere. -/
theorem read_of_extends (h : Extends s s') (hr : s.read p = .ok content)
    (hn : ∀ location, s.locate p = .ok location → s'.node? location = s.node? location) :
    s'.read p = .ok content := by
  obtain ⟨location, executable, hl, hnode⟩ := read_eq_ok_iff.1 hr
  exact read_eq_ok_iff.2 ⟨location, executable, h.locate hl, (hn location hl).trans hnode⟩

/-- Something put where there is no directory leaves directories as they are. -/
theorem extends_put {node : Node} (h : s.node? location ≠ some .directory) :
    Extends s (s.put location node) := by
  refine ⟨rfl, fun other hd => ?_⟩
  have hroot : location ≠ [] := by rintro rfl; exact h (node?_root s)
  rw [node?_put s hroot, if_neg, hd]
  rintro rfl
  exact h hd

theorem node?_put_self {node : Node} (h : s.node? location ≠ some .directory) :
    (s.put location node).node? location = some node := by
  rw [node?_put s (by rintro rfl; exact h (node?_root s)), if_pos rfl]

theorem node?_put_of_ne {node : Node} (h : s.node? location ≠ some .directory)
    (hne : other ≠ location) : (s.put location node).node? other = s.node? other := by
  rw [node?_put s (by rintro rfl; exact h (node?_root s)), if_neg hne]

/-! ## Writing -/

/-- Writing puts a file where the path leads and there is no directory. -/
theorem exists_of_write_eq_ok (h : s.write p content = .ok s') :
    ∃ location executable, s.locate p = .ok location ∧ s.node? location ≠ some .directory ∧
      s' = s.put location (.file content executable) := by
  unfold write locateFile at h
  by_cases hslash : p.endsWithSlash
  · rcases hl : s.locateEntry p <;> simp [hslash, hl, bind, Except.bind] at h
  · rcases hl : s.locate p with _ | location
    · simp [hslash, hl, bind, Except.bind] at h
    · rcases hn : s.node? location with _ | _ | ⟨_, executable⟩ <;>
        simp only [hslash, hl, hn, bind, Except.bind, Bool.false_eq_true, if_false, reduceCtorEq,
          Except.ok.injEq] at h
      · exact ⟨location, false, rfl, by simp [hn], h.symm⟩
      · exact ⟨location, executable, rfl, by simp [hn], h.symm⟩

theorem extends_write (h : s.write p content = .ok s') : Extends s s' := by
  obtain ⟨location, executable, -, hn, rfl⟩ := exists_of_write_eq_ok h
  exact extends_put hn

theorem read_write (h : s.write p content = .ok s') : s'.read p = .ok content := by
  obtain ⟨location, executable, hl, hn, rfl⟩ := exists_of_write_eq_ok h
  exact read_eq_ok_iff.2 ⟨location, executable, (extends_put hn).locate hl, node?_put_self hn⟩

/-- Writing changes no file at another location. -/
theorem read_write_of_locate_ne (h : s.write p content = .ok s') (hr : s.read q = .ok c)
    (hne : s.locate q ≠ s.locate p) : s'.read q = .ok c := by
  obtain ⟨location, executable, hl, hn, rfl⟩ := exists_of_write_eq_ok h
  refine read_of_extends (extends_put hn) hr fun other hother => node?_put_of_ne hn ?_
  rintro rfl
  exact hne (hother.trans hl.symm)

/-- What takes the place of something is put where the path leads and there is no directory. -/
theorem exists_of_replace_eq_ok (h : s.replace p content = .ok s') :
    ∃ location, s.locate p = .ok location ∧ s.node? location ≠ some .directory ∧
      s' = s.put location (.file content false) := by
  unfold replace at h
  rcases hl : s.locateEntry p with _ | location
  · simp [hl, bind, Except.bind] at h
  · simp only [hl, bind, Except.bind] at h
    split_ifs at h with hname hslash hd
    rw [Except.ok.injEq] at h
    refine ⟨location, ?_, hd, h.symm⟩
    rw [locateEntry, Path.withoutEndSlash_eq (by simpa using hslash)] at hl
    rcases hf : p.fault? with _ | _
    · simpa [hf] using hl
    · simp [hf] at hl

/-- What has taken the place of something is there to be read. -/
theorem read_replace (h : s.replace p content = .ok s') : s'.read p = .ok content := by
  obtain ⟨location, hl, hd, rfl⟩ := exists_of_replace_eq_ok h
  exact read_eq_ok_iff.2 ⟨location, false, (extends_put hd).locate hl, node?_put_self hd⟩

/-! ## Making directories -/

/-- What is made along a path is put where there was nothing. -/
theorem makeAlong_keeps (made : Bool) (start : Location) (names : List String) :
    Extends s (s.makeAlong made start names).2 ∧ ∀ location node, s.node? location = some node →
      (s.makeAlong made start names).2.node? location = some node := by
  induction names generalizing s made start with
  | nil => exact ⟨.refl s, fun _ _ h => h⟩
  | cons name names ih =>
    rw [makeAlong]
    by_cases hdot : name = "" ∨ name = "."
    · rw [if_pos hdot]
      exact ih made start
    by_cases hup : name = ".."
    · rw [if_neg hdot, if_pos hup]
      exact ih made start.dropLast
    by_cases hlong : Path.longestName < name.utf8ByteSize
    · rw [if_neg hdot, if_neg hup, if_pos hlong]
      exact ⟨.refl s, fun _ _ h => h⟩
    rw [if_neg hdot, if_neg hup, if_neg hlong]
    -- Only where there is nothing is a directory put.
    rcases hn : s.node? (start ++ [name]) with _ | _ | _
    · have hput : s.node? (start ++ [name]) ≠ some .directory := by simp [hn]
      obtain ⟨hextends, hkeeps⟩ :=
        ih (s := s.put (start ++ [name]) .directory) true (start ++ [name])
      simp only [hn]
      refine ⟨(extends_put hput).trans hextends, fun location node h => hkeeps _ _ ?_⟩
      rw [node?_put_of_ne hput, h]
      rintro rfl
      exact absurd (hn.symm.trans h) (by simp)
    · simpa only [hn] using ih made (start ++ [name])
    · simpa only [hn] using ⟨.refl s, fun _ _ h => h⟩

/-- Making directories changes no file. -/
theorem read_makeDirectories (q : Path) (h : s.read p = .ok content) :
    (s.makeDirectories q).2.read p = .ok content := by
  unfold makeDirectories
  rcases q.fault? with _ | _
  · obtain ⟨hextends, hkeeps⟩ := makeAlong_keeps (s := s) false (s.start q) q.segments
    obtain ⟨location, executable, hl, hn⟩ := read_eq_ok_iff.1 h
    exact read_eq_ok_iff.2 ⟨location, executable, hextends.locate hl, hkeeps _ _ hn⟩
  · exact h

/-! ## Where paths lead -/

/-- A walk ends with the last name, which is none of the dot segments. -/
theorem getLast?_walk {names : List String} {name : String} {start : Location}
    (hname : 2 < name.toList.length) (h : s.walk start (names ++ [name]) = .ok location) :
    location.getLast? = some name := by
  induction names generalizing start with
  | nil =>
    have hproper : ∀ short : String, short.toList.length ≤ 2 → name ≠ short := by
      rintro short hs rfl
      omega
    obtain ⟨-, next, hnext, hrest⟩ := walk_cons_eq_ok_iff.1 h
    simp only [Leads, hproper "" (by simp), hproper "." (by simp), hproper ".." (by simp), or_self,
      if_false] at hnext
    rw [walk, Except.ok.injEq] at hrest
    rw [← hrest, hnext.2, List.getLast?_concat]
  | cons first names ih =>
    obtain ⟨-, next, -, hrest⟩ := walk_cons_eq_ok_iff.1 h
    exact ih hrest

/-- A location to which a path leads ends as the path does. -/
theorem exists_getLast?_of_locate {ending : List Char} (hend : p.HasEnding ending)
    (h : s.locate p = .ok location) :
    ∃ name, location.getLast? = some name ∧ ending <:+ name.toList := by
  obtain ⟨before, last, hsegments, hlast⟩ := hend.exists_segments_eq
  refine ⟨last, ?_, hlast⟩
  rw [locate, hsegments] at h
  rcases hf : p.fault? with _ | _
  · simp only [hf] at h
    split_ifs at h
    exact getLast?_walk (Nat.lt_of_lt_of_le hend.long hlast.length_le) h
  · simp [hf] at h

/-- Paths lead to different locations if neither of two endings of them ends with the other. -/
theorem locate_ne_locate {x y : List Char} (hx : p.HasEnding x) (hy : q.HasEnding y)
    (hxy : ¬x <:+ y) (hyx : ¬y <:+ x) (h : s.locate p = .ok location) :
    s.locate p ≠ s.locate q := by
  intro heq
  obtain ⟨name, hname, hsx⟩ := exists_getLast?_of_locate hx h
  obtain ⟨name', hname', hsy⟩ := exists_getLast?_of_locate hy (heq.symm.trans h)
  obtain rfl : name = name' := Option.some.inj (hname.symm.trans hname')
  exact (List.suffix_or_suffix_of_suffix hsx hsy).elim hxy hyx

end Store

end PluginBuild.Files
