import PluginBuild.Listing.Line
import PluginBuild.Proofs.Text.Lines
/-!
# Where logical lines stand

Reading logical lines goes through the physical lines from left to right, and what it makes of
them depends on what came before by the mode alone. So a logical line is made by a run of physical
lines of its own (`exists_endsLine`), the lines are laid out one after another without a gap
(`laidOut_logicalLines`), and lines that leave the mode as it was can be taken out of the text
without a change to the others (`logicalLines_sublist`).
-/

namespace PluginBuild.Listing

open Text (byteLength physicalLines takeBytes ProperLines)

/-- What is made of a result comes from a result. -/
theorem exists_ok_of_map_eq_ok {ε α β : Type} {f : α → β} {x : Except ε α} {b : β}
    (h : x.map f = .ok b) : ∃ a, x = .ok a ∧ f a = b := by
  cases x with
  | error e => cases h
  | ok a => exact ⟨a, rfl, Except.ok.inj h⟩

/-- The mode after physical lines. -/
def Mode.afterLines (mode : Mode) : List (List Char) → Mode
  | [] => mode
  | physical :: rest => (mode.read physical).2.atNextLine.afterLines rest

/-- The mode at the physical line that starts after `offset` bytes of a text. -/
def modeAt (text : List Char) (offset : Nat) : Mode :=
  Mode.code.afterLines (physicalLines (takeBytes offset text))

theorem Mode.afterLines_append (mode : Mode) (a b : List (List Char)) :
    mode.afterLines (a ++ b) = (mode.afterLines a).afterLines b := by
  induction a generalizing mode with
  | nil => rfl
  | cons physical rest ih => exact ih _

/-- The mode at a place between physical lines is the mode after those before it. -/
theorem modeAt_of_physicalLines {text : List Char} {before after : List (List Char)}
    (h : physicalLines text = before ++ after) :
    modeAt text (byteLength before.flatten) = Mode.code.afterLines before := by
  have hproper : ProperLines (before ++ after) := h ▸ Text.properLines_physicalLines text
  have hbefore := hproper.sublist (List.sublist_append_left before after)
  rw [modeAt, ← Text.flatten_physicalLines text, h, List.flatten_append, Text.takeBytes_append,
    hbefore.physicalLines_flatten]

namespace Line

/-- The line without its place. -/
def unplaced (line : Line) : Line := { line with start := 0, number := 0 }

theorem extend_extend (line : Line) (a b : List (Char × Part)) :
    (line.extend a).extend b = line.extend (a ++ b) := by
  simp [extend, countCode, List.count_append, Nat.add_assoc]

end Line

theorem Mode.map_fst_read (mode : Mode) (s : List Char) : (mode.read s).1.map (·.1) = s := by
  induction s generalizing mode with
  | nil => rfl
  | cons c rest ih =>
    rw [Mode.read, List.map_cons, ih]

/-- The characters of physical lines with their parts. -/
def Mode.marks (mode : Mode) : List (List Char) → List (Char × Part)
  | [] => []
  | physical :: rest => (mode.read physical).1 ++ (mode.read physical).2.atNextLine.marks rest

theorem Mode.map_fst_marks (mode : Mode) (physicals : List (List Char)) :
    (mode.marks physicals).map (·.1) = physicals.flatten := by
  induction physicals generalizing mode with
  | nil => rfl
  | cons physical rest ih =>
    rw [Mode.marks, List.map_append, Mode.map_fst_read, ih, List.flatten_cons]

/-- The line that physical lines make which are read in a mode. -/
def Mode.lineAt (mode : Mode) (start number : Nat) (chunk : List (List Char)) : Line :=
  (Line.emptyAt start number).extend (mode.marks chunk)

@[simp] theorem Mode.text_lineAt (mode : Mode) (start number : Nat)
    (chunk : List (List Char)) : (mode.lineAt start number chunk).text = chunk.flatten := by
  simp [Mode.lineAt, Line.extend, Line.emptyAt, Mode.map_fst_marks]

/-- The physical lines, read in the mode, end a logical line, wherever they stand and whatever
comes after them. -/
def Mode.EndsLine (mode : Mode) (chunk : List (List Char)) : Prop :=
  ∀ number offset rest,
    logicalFrom mode number offset none (chunk ++ rest) =
      (logicalFrom (mode.afterLines chunk) (number + chunk.length)
        (offset + byteLength chunk.flatten) none rest).map (mode.lineAt offset number chunk :: ·)

/-- A physical line goes to the end of the open line, and either leaves it open or ends it. -/
theorem logicalFrom_cons (mode : Mode) (number offset : Nat) (pending : Option (Line × Int))
    (physical : List Char) (rest : List (List Char)) :
    logicalFrom mode number offset pending (physical :: rest) =
      let opened := pending.getD (Line.emptyAt offset number, 0)
      let line := opened.1.extend (mode.read physical).1
      let parens := opened.2 + netParens (mode.read physical).1
      let next := mode.afterLines [physical]
      if parens < 0 then .error ⟨number, .closeParen⟩
      else if 0 < parens then
        logicalFrom next (number + 1) (offset + byteLength physical) (some (line, parens)) rest
      else
        (logicalFrom next (number + 1) (offset + byteLength physical) none rest).map
          (line :: ·) := by
  rw [logicalFrom]
  dsimp only [Mode.afterLines]
  cases logicalFrom (mode.read physical).2.atNextLine (number + 1)
    (offset + byteLength physical) none rest <;> rfl

/-- Lines are read from nothing only. -/
theorem eq_nil_of_logicalFrom {mode : Mode} {number offset : Nat}
    {pending : Option (Line × Int)} {physicals : List (List Char)}
    (h : logicalFrom mode number offset pending physicals = .ok []) : physicals = [] := by
  induction physicals generalizing mode number offset pending with
  | nil => rfl
  | cons physical rest ih =>
    rw [logicalFrom_cons] at h
    dsimp only at h
    split at h
    · cases h
    · split at h
      · -- The line goes on, and there would be no physical line to end it.
        have hrest := ih h
        subst hrest
        cases h
      · obtain ⟨_, _, hcons⟩ := exists_ok_of_map_eq_ok h
        cases hcons

/-- The first line read takes a run of physical lines, which end it wherever they stand. -/
theorem logicalFrom_some_uncons {mode : Mode} {number offset : Nat} {opened : Line}
    {parens : Int} {physicals : List (List Char)} {line : Line} {lines : List Line}
    (h : logicalFrom mode number offset (some (opened, parens)) physicals =
      .ok (line :: lines)) :
    ∃ chunk rest, chunk ≠ [] ∧ physicals = chunk ++ rest ∧
      line = opened.extend (mode.marks chunk) ∧
      logicalFrom (mode.afterLines chunk) (number + chunk.length)
        (offset + byteLength chunk.flatten) none rest = .ok lines ∧
      ∀ number' offset' opened' rest',
        logicalFrom mode number' offset' (some (opened', parens)) (chunk ++ rest') =
          (logicalFrom (mode.afterLines chunk) (number' + chunk.length)
            (offset' + byteLength chunk.flatten) none rest').map
              (opened'.extend (mode.marks chunk) :: ·) := by
  induction physicals generalizing mode number offset opened parens with
  | nil => cases h
  | cons physical more ih =>
    rw [logicalFrom_cons] at h
    dsimp only [Option.getD_some] at h
    split at h
    · cases h
    next hneg =>
    split at h
    · next hpos =>
      -- A parenthesis is open, so that the logical line goes on.
      obtain ⟨chunk, rest, -, hmore, hline, hrest, hends⟩ := ih h
      have hafter : mode.afterLines (physical :: chunk) =
          (mode.afterLines [physical]).afterLines chunk := rfl
      have hextend (opened' : Line) : opened'.extend (mode.marks (physical :: chunk)) =
          (opened'.extend (mode.read physical).1).extend
            ((mode.afterLines [physical]).marks chunk) :=
        (Line.extend_extend _ _ _).symm
      have hlength (n : Nat) : n + (physical :: chunk).length = n + 1 + chunk.length := by
        rw [List.length_cons]
        omega
      have hbytes (n : Nat) : n + byteLength (physical :: chunk).flatten =
          n + byteLength physical + byteLength chunk.flatten := by
        rw [List.flatten_cons, Text.byteLength_append, Nat.add_assoc]
      refine ⟨physical :: chunk, rest, by simp, by rw [hmore]; rfl, ?_, ?_, ?_⟩
      · rw [hextend]
        exact hline
      · rw [hafter, hlength, hbytes]
        exact hrest
      · intro number' offset' opened' rest'
        rw [List.cons_append, logicalFrom_cons, hafter, hextend, hlength, hbytes]
        dsimp only [Option.getD_some]
        rw [if_neg hneg, if_pos hpos]
        exact hends (number' + 1) (offset' + byteLength physical) _ rest'
    · next hzero =>
      -- The logical line ends with this physical one.
      obtain ⟨others, hmore, hcons⟩ := exists_ok_of_map_eq_ok h
      obtain ⟨rfl, rfl⟩ := List.cons.inj hcons
      have hmarks : mode.marks [physical] = (mode.read physical).1 := List.append_nil _
      refine ⟨[physical], more, by simp, rfl, by rw [hmarks], ?_, ?_⟩
      · simpa only [List.flatten_singleton, List.length_singleton] using hmore
      · intro number' offset' opened' rest'
        rw [List.singleton_append, logicalFrom_cons, List.flatten_singleton, hmarks]
        dsimp only [Option.getD_some]
        rw [if_neg hneg, if_neg hzero]
        rfl

/-- The first line read takes a run of physical lines of its own. -/
theorem exists_endsLine {mode : Mode} {number offset : Nat} {physicals : List (List Char)}
    {line : Line} {lines : List Line}
    (h : logicalFrom mode number offset none physicals = .ok (line :: lines)) :
    ∃ chunk rest, chunk ≠ [] ∧ physicals = chunk ++ rest ∧
      line = mode.lineAt offset number chunk ∧ mode.EndsLine chunk ∧
      logicalFrom (mode.afterLines chunk) (number + chunk.length)
        (offset + byteLength chunk.flatten) none rest = .ok lines := by
  cases physicals with
  | nil => cases h
  | cons physical more =>
    -- A line that has just been started is as good as none.
    have hstarted (n o : Nat) (p : List Char) (ps : List (List Char)) :
        logicalFrom mode n o none (p :: ps) =
          logicalFrom mode n o (some (Line.emptyAt o n, 0)) (p :: ps) := by
      rw [logicalFrom_cons, logicalFrom_cons]
      rfl
    rw [hstarted] at h
    obtain ⟨chunk, rest, hne, hmore, hline, hrest, hends⟩ := logicalFrom_some_uncons h
    refine ⟨chunk, rest, hne, hmore, hline, ?_, hrest⟩
    intro number' offset' rest'
    obtain ⟨p, ps, rfl⟩ := List.exists_cons_of_ne_nil hne
    rw [List.cons_append, hstarted]
    exact hends number' offset' _ rest'

/-- Each line read takes a run of physical lines, in the mode after those before it. -/
theorem exists_lineAt_of_mem {mode : Mode} {number offset : Nat}
    {physicals : List (List Char)} {lines : List Line} {line : Line}
    (h : logicalFrom mode number offset none physicals = .ok lines) (hline : line ∈ lines) :
    ∃ before chunk after, physicals = before ++ (chunk ++ after) ∧
      line = (mode.afterLines before).lineAt (offset + byteLength before.flatten)
        (number + before.length) chunk := by
  induction lines generalizing mode number offset physicals with
  | nil => cases hline
  | cons first lines ih =>
    obtain ⟨chunk, rest, -, rfl, rfl, -, hrest⟩ := exists_endsLine h
    rcases List.mem_cons.1 hline with rfl | hline
    · exact ⟨[], chunk, rest, rfl, rfl⟩
    · obtain ⟨before, others, after, rfl, rfl⟩ := ih hrest hline
      refine ⟨chunk ++ before, others, after, by rw [List.append_assoc], ?_⟩
      rw [Mode.afterLines_append, List.flatten_append, Text.byteLength_append,
        List.length_append, Nat.add_assoc, Nat.add_assoc]

/-- The lines stand one after another behind a text. Each has a character, starts where the text
before it ends, and has one more than the line feeds before it for its number. -/
def LaidOut (before : List Char) : List Line → Prop
  | [] => True
  | line :: rest =>
    (line.text ≠ [] ∧ line.start = byteLength before ∧ line.number = 1 + before.count '\n') ∧
      LaidOut (before ++ line.text) rest

/-- Logical lines stand one after another, and no text is between them. -/
theorem laidOut_logicalFrom {mode : Mode} {number offset : Nat} {physicals : List (List Char)}
    {lines : List Line} {before : List Char}
    (h : logicalFrom mode number offset none physicals = .ok lines)
    (hproper : ProperLines physicals) (hoffset : offset = byteLength before)
    (hnumber : physicals ≠ [] → number = 1 + before.count '\n') :
    LaidOut before lines ∧ lines.flatMap Line.text = physicals.flatten := by
  induction lines generalizing mode number offset physicals before with
  | nil =>
    rw [eq_nil_of_logicalFrom h]
    exact ⟨trivial, rfl⟩
  | cons line lines ih =>
    obtain ⟨chunk, rest, hne, rfl, hline, -, hrest⟩ := exists_endsLine h
    have htext : line.text = chunk.flatten := by rw [hline, Mode.text_lineAt]
    have hstart : line.start = offset := by rw [hline]; rfl
    have hfirst : line.number = number := by rw [hline]; rfl
    have hnumber := hnumber (by simp [hne])
    have hnext : rest ≠ [] → number + chunk.length = 1 + (before ++ line.text).count '\n' := by
      intro hmore
      rw [List.count_append, htext, hproper.count_flatten hmore]
      omega
    obtain ⟨hlaid, hlines⟩ := ih hrest (hproper.sublist (List.sublist_append_right chunk rest))
      (by rw [Text.byteLength_append, htext, hoffset]) hnext
    have hchar : line.text ≠ [] := by
      obtain ⟨p, ps, rfl⟩ := List.exists_cons_of_ne_nil hne
      have hp := hproper.ne_nil p (by simp)
      simp [htext, hp]
    refine ⟨⟨⟨hchar, by rw [hstart, hoffset], by rw [hfirst, hnumber]⟩, hlaid⟩, ?_⟩
    rw [List.flatMap_cons, hlines, htext, List.flatten_append]

/-- The logical lines of a text stand one after another from its start to its end. -/
theorem laidOut_logicalLines {text : List Char} {lines : List Line}
    (h : logicalLines text = .ok lines) :
    LaidOut [] lines ∧ lines.flatMap Line.text = text := by
  have hlaid : LaidOut [] lines ∧ lines.flatMap Line.text = (physicalLines text).flatten :=
    laidOut_logicalFrom h (Text.properLines_physicalLines text) rfl fun _ => rfl
  rwa [Text.flatten_physicalLines] at hlaid

/-- Every logical line but the last ends with a line feed. -/
theorem ended_logicalFrom {mode : Mode} {number offset : Nat} {physicals : List (List Char)}
    {lines : List Line} (h : logicalFrom mode number offset none physicals = .ok lines)
    (hproper : ProperLines physicals) :
    lines.Pairwise fun line _ => line.text.getLast? = some '\n' := by
  induction lines generalizing mode number offset physicals with
  | nil => exact .nil
  | cons line lines ih =>
    obtain ⟨chunk, rest, hne, rfl, rfl, -, hrest⟩ := exists_endsLine h
    refine List.pairwise_cons.2 ⟨fun later hlater => ?_,
      ih hrest (hproper.sublist (List.sublist_append_right chunk rest))⟩
    -- A line is read from the physical lines behind, so that those before them have line feeds.
    obtain ⟨physical, more, rfl⟩ : ∃ physical more, rest = physical :: more := by
      cases rest with
      | nil =>
        cases hrest
        cases hlater
      | cons physical more => exact ⟨physical, more, rfl⟩
    obtain ⟨chunk, last, rfl⟩ := List.eq_nil_or_concat chunk |>.resolve_left hne
    rw [List.concat_eq_append] at hproper ⊢
    have hlast : last.getLast? = some '\n' :=
      (List.pairwise_append.1 hproper.ended).2.2 last (by simp) physical (by simp)
    obtain ⟨start, rfl⟩ := List.getLast?_eq_some_iff.1 hlast
    rw [Mode.text_lineAt, List.flatten_append, List.flatten_singleton, ← List.append_assoc,
      List.getLast?_concat]

theorem ended_logicalLines {text : List Char} {lines : List Line}
    (h : logicalLines text = .ok lines) :
    lines.Pairwise fun line _ => line.text.getLast? = some '\n' :=
  ended_logicalFrom h (Text.properLines_physicalLines text)

/-- Behind a text no line starts within it. -/
theorem LaidOut.le_start {before : List Char} {lines : List Line} (h : LaidOut before lines) :
    ∀ line ∈ lines, byteLength before ≤ line.start := by
  induction lines generalizing before with
  | nil => simp
  | cons line rest ih =>
    intro other hother
    rcases List.mem_cons.1 hother with rfl | hother
    · exact Nat.le_of_eq h.1.2.1.symm
    · have hle := ih h.2 other hother
      rw [Text.byteLength_append] at hle
      omega

theorem LaidOut.text_ne_nil {before : List Char} {lines : List Line} (h : LaidOut before lines) :
    ∀ line ∈ lines, line.text ≠ [] := by
  induction lines generalizing before with
  | nil => simp
  | cons line rest ih => exact List.forall_mem_cons.2 ⟨h.1.1, ih h.2⟩

/-- No line stands twice. -/
theorem LaidOut.nodup {before : List Char} {lines : List Line} (h : LaidOut before lines) :
    lines.Nodup := by
  induction lines generalizing before with
  | nil => exact .nil
  | cons line rest ih =>
    refine List.nodup_cons.2 ⟨fun hline => ?_, ih h.2⟩
    have hle := h.2.le_start line hline
    obtain ⟨c, more, hc⟩ := List.exists_cons_of_ne_nil h.1.1
    have hpos := c.utf8Size_pos
    rw [Text.byteLength_append, hc, Text.byteLength, h.1.2.1] at hle
    omega

/-- Lines that leave the mode as it was can be taken out of the physical lines. -/
theorem logicalFrom_sublist {mode : Mode} {number offset : Nat} {physicals : List (List Char)}
    {lines kept : List Line} (h : logicalFrom mode number offset none physicals = .ok lines)
    (hkept : kept.Sublist lines) (hnodup : lines.Nodup)
    (hmode : ∀ before chunk after line, physicals = before ++ (chunk ++ after) →
      line ∈ lines → line ∉ kept → line.start = offset + byteLength before.flatten →
      line.text = chunk.flatten →
      (mode.afterLines before).afterLines chunk = mode.afterLines before)
    (number' offset' : Nat) :
    ∃ physicals' lines', physicals'.Sublist physicals ∧
      physicals'.flatten = kept.flatMap Line.text ∧
      logicalFrom mode number' offset' none physicals' = .ok lines' ∧
      lines'.map Line.unplaced = kept.map Line.unplaced := by
  induction hkept generalizing mode number offset physicals number' offset' with
  | slnil => exact ⟨[], [], List.nil_sublist _, rfl, rfl, rfl⟩
  | @cons kept lines line hkept ih =>
    -- The line goes, and the others are read on in the mode in which it started.
    obtain ⟨chunk, rest, hne, rfl, rfl, -, hrest⟩ := exists_endsLine h
    obtain ⟨hline, hnodup⟩ := List.nodup_cons.1 hnodup
    have hsame : mode.afterLines chunk = mode :=
      hmode [] chunk rest _ rfl (by simp) (fun hmem => hline (hkept.subset hmem)) rfl
        (Mode.text_lineAt _ _ _ _)
    rw [hsame] at hrest
    obtain ⟨physicals', lines', hsub, hflat, hread, hsame'⟩ := ih hrest hnodup
      (fun before chunk' after line' hsplit hmem hout hstart' htext' => by
        have hstep := hmode (chunk ++ before) chunk' after line'
          (by rw [hsplit, List.append_assoc]) (List.mem_cons_of_mem _ hmem) hout
          (by rw [hstart', List.flatten_append, Text.byteLength_append, Nat.add_assoc]) htext'
        rwa [Mode.afterLines_append, hsame] at hstep) number' offset'
    exact ⟨physicals', lines', hsub.trans (List.sublist_append_right chunk rest), hflat, hread,
      hsame'⟩
  | @cons_cons kept lines line hkept ih =>
    -- The line stays, and its physical lines end it at the new place as they did at the old one.
    obtain ⟨chunk, rest, hne, rfl, rfl, hends, hrest⟩ := exists_endsLine h
    obtain ⟨hline, hnodup⟩ := List.nodup_cons.1 hnodup
    obtain ⟨physicals', lines', hsub, hflat, hread, hsame⟩ := ih hrest hnodup
      (fun before chunk' after line' hsplit hmem hout hstart' htext' => by
        have hstep := hmode (chunk ++ before) chunk' after line'
          (by rw [hsplit, List.append_assoc]) (List.mem_cons_of_mem _ hmem)
          (fun hin => (List.mem_cons.1 hin).elim (fun heq => hline (heq ▸ hmem)) hout)
          (by rw [hstart', List.flatten_append, Text.byteLength_append, Nat.add_assoc]) htext'
        rwa [Mode.afterLines_append] at hstep)
      (number' + chunk.length) (offset' + byteLength chunk.flatten)
    refine ⟨chunk ++ physicals', mode.lineAt offset' number' chunk :: lines', ?_, ?_, ?_, ?_⟩
    · exact hsub.append_left chunk
    · rw [List.flatten_append, hflat, List.flatMap_cons, Mode.text_lineAt]
    · rw [hends number' offset' physicals', hread]
      rfl
    · rw [List.map_cons, List.map_cons, hsame]
      rfl

/-- The physical lines before a place and those up to a later one give the modes at both. -/
theorem modeAt_of_chunk {text : List Char} {before chunk after : List (List Char)}
    (h : physicalLines text = before ++ (chunk ++ after)) :
    modeAt text (byteLength before.flatten + byteLength chunk.flatten) =
      (modeAt text (byteLength before.flatten)).afterLines chunk := by
  have hbefore := modeAt_of_physicalLines h
  rw [← List.append_assoc] at h
  have hafter := modeAt_of_physicalLines h
  rw [List.flatten_append, Text.byteLength_append, Mode.afterLines_append] at hafter
  rw [hbefore, hafter]

/-- A logical line is what its physical lines make in the mode at its start, and they lead to the
mode at its end. -/
theorem exists_lineAt_of_mem_logicalLines {text : List Char} {lines : List Line} {line : Line}
    (h : logicalLines text = .ok lines) (hline : line ∈ lines) :
    ∃ chunk, ProperLines chunk ∧
      line = (modeAt text line.start).lineAt line.start line.number chunk ∧
      modeAt text line.stop = (modeAt text line.start).afterLines chunk := by
  obtain ⟨before, chunk, after, hsplit, hmade⟩ := exists_lineAt_of_mem h hline
  have hproper : ProperLines (before ++ (chunk ++ after)) :=
    hsplit ▸ Text.properLines_physicalLines text
  have hstart : line.start = byteLength before.flatten := by
    rw [hmade]
    exact Nat.zero_add _
  have htext : line.text = chunk.flatten := by rw [hmade, Mode.text_lineAt]
  refine ⟨chunk, hproper.sublist ?_, ?_, ?_⟩
  · exact (List.sublist_append_left chunk after).trans (List.sublist_append_right before _)
  · rw [hstart, modeAt_of_physicalLines hsplit, hmade, Nat.zero_add]
    rfl
  · rw [Line.stop, htext, hstart, modeAt_of_chunk hsplit]

/-- A line with an opening brace in code has one in its text. -/
theorem brace_mem_of_mem_logicalLines {text : List Char} {lines : List Line} {line : Line}
    (h : logicalLines text = .ok lines) (hline : line ∈ lines) (hopens : 0 < line.opens) :
    '\x7b' ∈ line.text := by
  obtain ⟨chunk, -, hmade, -⟩ := exists_lineAt_of_mem_logicalLines h hline
  rw [hmade] at hopens ⊢
  have hmark : ('\x7b', Part.code) ∈ (modeAt text line.start).marks chunk := by
    rw [Mode.lineAt, Line.extend, Line.emptyAt, Nat.zero_add] at hopens
    exact List.count_pos_iff.1 hopens
  rw [Mode.text_lineAt, ← Mode.map_fst_marks]
  exact List.mem_map_of_mem hmark

/-- Lines that leave the mode as it was can be taken out of a text: its other lines are read from
what is left as before, but for their places. -/
theorem logicalLines_sublist {text : List Char} {lines kept : List Line}
    (h : logicalLines text = .ok lines) (hkept : kept.Sublist lines)
    (hmode : ∀ line ∈ lines, line ∉ kept → modeAt text line.stop = modeAt text line.start) :
    ∃ lines', logicalLines (kept.flatMap Line.text) = .ok lines' ∧
      lines'.map Line.unplaced = kept.map Line.unplaced := by
  have hproper := Text.properLines_physicalLines text
  obtain ⟨physicals', lines', hsub, hflat, hread, hsame⟩ :=
    logicalFrom_sublist h hkept (laidOut_logicalLines h).1.nodup
      (fun before chunk after line hsplit hmem hout hstart htext => by
        have hleft := hmode line hmem hout
        rwa [Line.stop, hstart, htext, Nat.zero_add, modeAt_of_chunk hsplit,
          modeAt_of_physicalLines hsplit] at hleft) 1 0
  refine ⟨lines', ?_, hsame⟩
  rw [logicalLines, ← hflat, (hproper.sublist hsub).physicalLines_flatten]
  exact hread

end PluginBuild.Listing
