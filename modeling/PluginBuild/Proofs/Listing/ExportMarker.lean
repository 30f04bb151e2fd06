import PluginBuild.Listing.ExportMarker
import PluginBuild.Proofs.Listing.Item
import PluginBuild.Proofs.Listing.Line
/-!
# Export markers

`PlainMarker` is the form of a marker that stands alone on its physical line. Read in code it has
no brace, and the mode after it is code again, so that it can go without a trace
(`plainMarker_neutral`). Where the blanks may be any and the name may be any that no comment begins
in, a marker is read as the ordinal and the name that it was written for
(`ExportMarker.ofLine?_written`).
-/

namespace PluginBuild.Listing

open Text (isBlank isBlank_feed byteLength physicalLines ProperLines)

/-! ### Markers on lines of their own -/

/-- The characters that open a literal or a comment, and the braces. -/
def special : List Char := ['\'', '"', '/', '\x7b', '\x7d']

/-- Blanks within a line. -/
def Spaces (s : List Char) : Prop := ∀ c ∈ s, isBlank c = true ∧ c ≠ '\n'

/-- What stands between the quotes of an identifier. -/
inductive QuotedBody : List Char → Prop
  | nil : QuotedBody []
  | plain {c : Char} {s : List Char} (hc : c ≠ '\'' ∧ c ≠ '\\' ∧ c ≠ '\n') (hs : QuotedBody s) :
      QuotedBody (c :: s)
  | escaped {c : Char} {s : List Char} (hc : c ≠ '\n') (hs : QuotedBody s) :
      QuotedBody ('\\' :: c :: s)

/-- An identifier, in quotes or without blanks, quotes, braces and slashes. -/
inductive Identifier : List Char → Prop
  | word {s : List Char} (hne : s ≠ [])
      (hs : ∀ c ∈ s, isBlank c = false ∧ c ∉ special) : Identifier s
  | quoted {s : List Char} (hs : QuotedBody s) : Identifier ('\'' :: (s ++ ['\'']))

/-- Digits in brackets, or nothing. -/
inductive Ordinal : List Char → Prop
  | none : Ordinal []
  | some {s : List Char} (hs : ∀ c ∈ s, c.isDigit = true ∨ Spaces [c]) :
      Ordinal ('[' :: (s ++ [']']))

/-- A line comment, or nothing. -/
inductive Remark : List Char → Prop
  | none : Remark []
  | some {s : List Char} (hs : '\n' ∉ s) : Remark ('/' :: '/' :: s)

/-- A marker `.export [n] as name` alone on a physical line, which a line comment may end. -/
inductive PlainMarker : List Char → Prop
  | mk {indent gap ordinal gap' gap'' name trailing remark feed : List Char}
      (hindent : Spaces indent) (hgap : Spaces gap) (hordinal : Ordinal ordinal)
      (hgap' : Spaces gap') (hgap'' : Spaces gap'') (hname : Identifier name)
      (htrailing : Spaces trailing) (hremark : Remark remark) (hfeed : feed = [] ∨ feed = ['\n']) :
      PlainMarker ((indent ++ (".export".toList ++ (gap ++ (ordinal ++ (gap' ++ ("as".toList ++
        (gap'' ++ (name ++ trailing)))))))) ++ (remark ++ feed))

/-- A text on one line that, read in code, has no brace and leads to code again. -/
structure Inert (s : List Char) : Prop where
  no_feed : '\n' ∉ s
  reads : ∃ marks : List (Char × Part),
    (∀ mark ∈ marks, mark.2 = .code → mark.1 ≠ '\x7b' ∧ mark.1 ≠ '\x7d') ∧
      ∀ rest, Mode.code.read (s ++ rest) =
        (marks ++ (Mode.code.read rest).1, (Mode.code.read rest).2)

namespace Inert

theorem nil : Inert [] := ⟨by simp, [], by simp, fun _ => rfl⟩

theorem append {a b : List Char} (ha : Inert a) (hb : Inert b) : Inert (a ++ b) := by
  obtain ⟨marksA, hbracesA, hreadA⟩ := ha.reads
  obtain ⟨marksB, hbracesB, hreadB⟩ := hb.reads
  refine ⟨by simp [ha.no_feed, hb.no_feed], marksA ++ marksB, ?_, fun rest => ?_⟩
  · exact List.forall_mem_append.2 ⟨hbracesA, hbracesB⟩
  · rw [List.append_assoc, hreadA, hreadB, List.append_assoc]

/-- A character that opens no literal and no comment and is no brace. -/
theorem singleton {c : Char} (hc : c ∉ special) (hfeed : c ≠ '\n') : Inert [c] := by
  simp only [special, List.mem_cons, not_or] at hc
  obtain ⟨hsingle, hdouble, hslash, hopen, hclose, -⟩ := hc
  refine ⟨by simpa using Ne.symm hfeed, [(c, .code)], ?_, fun rest => ?_⟩
  · simp [hopen, hclose]
  · rw [List.singleton_append, Mode.read, Mode.step, if_neg (by simp [hslash]),
      if_neg (by simp [hslash]), if_neg (by simp [hsingle, hdouble])]
    rfl

theorem of_forall {s : List Char} (h : ∀ c ∈ s, Inert [c]) : Inert s := by
  induction s with
  | nil => exact .nil
  | cons c rest ih =>
    obtain ⟨hc, hrest⟩ := List.forall_mem_cons.1 h
    exact hc.append (ih hrest)

/-- A text none of whose characters opens anything can be told by looking at each. -/
theorem of_all {s : List Char} (h : s.all (fun c => !special.contains c && c != '\n') = true) :
    Inert s := by
  refine .of_forall fun c hc => ?_
  obtain ⟨hspecial, hfeed⟩ : c ∉ special ∧ c ≠ '\n' := by
    simpa using List.all_eq_true.1 h c hc
  exact .singleton hspecial hfeed

end Inert

theorem not_blank_of_special {c : Char} (h : c ∈ special) :
    isBlank c = false ∧ c.isDigit = false := by
  have hall : special.all (fun c => !isBlank c && !c.isDigit) = true := by decide +kernel
  simpa using List.all_eq_true.1 hall c h

/-- Blanks within a line can be told by looking at each character. -/
theorem spaces_of_all {s : List Char} (h : s.all (fun c => isBlank c && c != '\n') = true) :
    Spaces s := by
  intro c hc
  simpa using List.all_eq_true.1 h c hc

theorem Spaces.inert {s : List Char} (h : Spaces s) : Inert s := by
  refine .of_forall fun c hc => .singleton (fun hspecial => ?_) (h c hc).2
  have hblank := (h c hc).1
  rw [(not_blank_of_special hspecial).1] at hblank
  cases hblank

theorem Ordinal.inert {s : List Char} (h : Ordinal s) : Inert s := by
  cases h with
  | none => exact .nil
  | @some s hs =>
    have hinside : Inert s := .of_forall fun c hc => by
      rcases hs c hc with hdigit | hspace
      · refine .singleton (fun hspecial => ?_) (by rintro rfl; cases hdigit)
        rw [(not_blank_of_special hspecial).2] at hdigit
        cases hdigit
      · exact hspace.inert
    have hopen : Inert ['['] := .of_all (by decide)
    have hclose : Inert [']'] := .of_all (by decide)
    exact hopen.append (hinside.append hclose)

/-- Quoted text is read up to the quote after it. -/
theorem QuotedBody.read {s : List Char} (h : QuotedBody s) (rest : List Char) :
    (Mode.literal '\'').read (s ++ '\'' :: rest) =
      (s.map (·, .literal) ++ ('\'', .literal) :: (Mode.code.read rest).1,
        (Mode.code.read rest).2) := by
  induction h with
  | nil => rfl
  | plain hc _ ih =>
    rw [List.cons_append, Mode.read, Mode.step, if_neg hc.2.1, if_neg (by simp [hc]), ih]
    rfl
  | escaped hc _ ih =>
    rw [List.cons_append, List.cons_append, Mode.read, Mode.step, if_pos rfl, Mode.read,
      Mode.step, ih]
    rfl

theorem QuotedBody.no_feed {s : List Char} (h : QuotedBody s) : '\n' ∉ s := by
  induction h with
  | nil => simp
  | plain hc _ ih => simp [ih, Ne.symm hc.2.2]
  | escaped hc _ ih => simp [ih, Ne.symm hc]

theorem Identifier.inert {s : List Char} (h : Identifier s) : Inert s := by
  cases h with
  | word hne hs =>
    refine .of_forall fun c hc => .singleton (hs c hc).2 ?_
    rintro rfl
    have hblank := (hs _ hc).1
    rw [isBlank_feed] at hblank
    cases hblank
  | @quoted s hs =>
    refine ⟨by simp [hs.no_feed],
      ('\'', .literal) :: (s.map (·, .literal) ++ [('\'', .literal)]), ?_, fun rest => ?_⟩
    · intro mark hmark hcode
      simp only [List.mem_cons, List.mem_append, List.mem_map, List.not_mem_nil, or_false]
        at hmark
      obtain rfl | ⟨c, -, rfl⟩ | rfl := hmark <;> cases hcode
    · rw [List.cons_append, List.append_assoc, Mode.read, Mode.step, if_neg (by simp),
        if_neg (by simp), if_pos (by simp)]
      simp [hs.read]

/-- A line comment goes on to the end of the line. -/
theorem Mode.read_lineComment (s : List Char) :
    Mode.lineComment.read s = (s.map (·, .comment), .lineComment) := by
  induction s with
  | nil => rfl
  | cons c rest ih => rw [Mode.read, Mode.step, ih]; rfl

/-- The end of a line, after its code. -/
theorem Remark.read {remark feed : List Char} (h : Remark remark)
    (hfeed : feed = [] ∨ feed = ['\n']) :
    (∀ mark ∈ (Mode.code.read (remark ++ feed)).1, mark.2 = .code →
      mark.1 ≠ '\x7b' ∧ mark.1 ≠ '\x7d') ∧
    (Mode.code.read (remark ++ feed)).2.atNextLine = .code := by
  cases h with
  | none => rcases hfeed with rfl | rfl <;> decide
  | @some s hs =>
    have hread : Mode.code.read ('/' :: '/' :: s ++ feed) =
        (('/', .comment) :: ('/', .comment) :: (s ++ feed).map (·, .comment), .lineComment) := by
      rw [List.cons_append, List.cons_append, Mode.read, Mode.step, if_pos (by simp), Mode.read,
        Mode.step, Mode.read_lineComment]
    rw [hread]
    refine ⟨fun mark hmark hcode => ?_, rfl⟩
    simp only [List.mem_cons, List.mem_map] at hmark
    obtain rfl | rfl | ⟨c, -, rfl⟩ := hmark <;> cases hcode

theorem PlainMarker.exists_inert {s : List Char} (h : PlainMarker s) :
    ∃ code remark feed, s = code ++ (remark ++ feed) ∧ Inert code ∧ code ≠ [] ∧ Remark remark ∧
      (feed = [] ∨ feed = ['\n']) := by
  cases h with
  | mk hindent hgap hordinal hgap' hgap'' hname htrailing hremark hfeed =>
    have hdirective : Inert ".export".toList := .of_all (by decide)
    have has : Inert "as".toList := .of_all (by decide)
    refine ⟨_, _, _, rfl, ?_, by simp, hremark, hfeed⟩
    exact hindent.inert.append (hdirective.append (hgap.inert.append (hordinal.inert.append
      (hgap'.inert.append (has.append (hgap''.inert.append
        (hname.inert.append htrailing.inert)))))))

/-- A plain marker is one physical line. -/
theorem PlainMarker.physicalLines_eq {s : List Char} (h : PlainMarker s) :
    physicalLines s = [s] := by
  obtain ⟨code, remark, feed, rfl, hcode, hne, hremark, hfeed⟩ := h.exists_inert
  have hno : '\n' ∉ code ++ remark := by
    cases hremark with
    | none => simpa using hcode.no_feed
    | some hs => simp [hcode.no_feed, hs]
  have hdrop : '\n' ∉ (code ++ (remark ++ feed)).dropLast := by
    rw [← List.append_assoc]
    rcases hfeed with rfl | rfl
    · rw [List.append_nil]
      exact fun hmem => hno (List.dropLast_subset _ hmem)
    · rwa [List.dropLast_concat]
  have hline := Text.physicalLines_append (by simp [hne]) hdrop (.inl rfl)
  rwa [List.append_nil] at hline

/-- A plain marker read in code has no brace in code, and leads to code again. -/
theorem PlainMarker.read {s : List Char} (h : PlainMarker s) :
    countCode '\x7b' (Mode.code.read s).1 = 0 ∧ countCode '\x7d' (Mode.code.read s).1 = 0 ∧
      (Mode.code.read s).2.atNextLine = .code := by
  obtain ⟨code, remark, feed, rfl, hcode, -, hremark, hfeed⟩ := h.exists_inert
  obtain ⟨marks, hmarks, hread⟩ := hcode.reads
  obtain ⟨hend, hmode⟩ := hremark.read hfeed
  rw [hread]
  refine ⟨?_, ?_, hmode⟩
  · refine List.count_eq_zero.2 fun hmem => ?_
    rcases List.mem_append.1 hmem with hmem | hmem
    · exact (hmarks _ hmem rfl).1 rfl
    · exact (hend _ hmem rfl).1 rfl
  · refine List.count_eq_zero.2 fun hmem => ?_
    rcases List.mem_append.1 hmem with hmem | hmem
    · exact (hmarks _ hmem rfl).2 rfl
    · exact (hend _ hmem rfl).2 rfl

/-- A plain marker that starts in code opens and closes no brace and leads to code again. -/
theorem plainMarker_neutral {text : List Char} {lines : List Line} {line : Line}
    (h : logicalLines text = .ok lines) (hline : line ∈ lines) (hplain : PlainMarker line.text)
    (hcode : modeAt text line.start = .code) :
    line.net = 0 ∧ modeAt text line.stop = modeAt text line.start := by
  obtain ⟨chunk, hproper, hmade, hstop⟩ := exists_lineAt_of_mem_logicalLines h hline
  have hchunk : chunk = [line.text] := by
    have htext : line.text = chunk.flatten := by rw [hmade, Mode.text_lineAt]
    rw [← hproper.physicalLines_flatten, ← htext, hplain.physicalLines_eq]
  rw [hcode, hchunk] at hmade hstop
  obtain ⟨hopens, hcloses, hmode⟩ := hplain.read
  refine ⟨?_, ?_⟩
  · have hmarks : Mode.code.marks [line.text] = (Mode.code.read line.text).1 :=
      List.append_nil _
    have hzero : line.opens = 0 ∧ line.closes = 0 := by
      rw [hmade, Mode.lineAt, hmarks]
      simp [Line.extend, Line.emptyAt, hopens, hcloses]
    rw [Line.net, hzero.1, hzero.2]
    rfl
  · rw [hstop, hcode]
    exact hmode

/-! ### Written markers -/

namespace ExportMarker

open Text

variable {ordinal : Option Nat} {name spelled s rest : List Char}

/-- Blanks, of which some may end a line. -/
def Blanks (s : List Char) : Prop := ∀ c ∈ s, isBlank c = true

instance : DecidablePred Blanks := fun s => inferInstanceAs (Decidable (∀ c ∈ s, _))

/-- A number in base ten, with zeros in front. -/
def decimal (zeros n : Nat) : List Char := List.replicate zeros '0' ++ Nat.toDigits 10 n

/-- What stands between the directive and `as`: blanks, or the ordinal in brackets. -/
inductive WritesOrdinal : Option Nat → List Char → Prop
  | absent {gap : List Char} (hgap : Blanks gap) (hne : gap ≠ []) : WritesOrdinal none gap
  | bracketed {zeros n : Nat} {gap before after gap' : List Char} (hgap : Blanks gap)
    (hbefore : Blanks before) (hafter : Blanks after) (hgap' : Blanks gap') :
    WritesOrdinal (some n)
      (gap ++ '[' :: ((before ++ (decimal zeros n ++ after)) ++ ']' :: gap'))

/-- How a name is written. In quotes it can have blanks at its ends and quotes around it, and in
either form there is nothing in it that begins a comment. -/
inductive WritesName : List Char → List Char → Prop
  | bare {name : List Char} (hne : name ≠ []) (hends : Unpadded name)
    (hquotes : ∀ inner, name ≠ '\'' :: (inner ++ ['\''])) (hremark : ¬"//".toList <:+: name) :
    WritesName name name
  | quoted {name : List Char} (hne : name ≠ []) (hremark : ¬"//".toList <:+: name) :
    WritesName name ('\'' :: (name ++ ['\'']))

/-- What can follow the name: blanks, and behind a blank a comment. -/
inductive EndsMarker : List Char → Prop
  | blank {gap : List Char} (hgap : Blanks gap) : EndsMarker gap
  | remark {gap : List Char} (hgap : Blanks gap) (hne : gap ≠ []) (remark : List Char) :
    EndsMarker (gap ++ '/' :: '/' :: remark)

/-- The lines that state a name and an ordinal, or no ordinal. -/
inductive Writes (ordinal : Option Nat) (name : List Char) : List Char → Prop
  | mk {indent between gap spelled rest : List Char} (hindent : Blanks indent)
    (hordinal : WritesOrdinal ordinal between) (hgap : Blanks gap) (hne : gap ≠ [])
    (hname : WritesName name spelled) (hrest : EndsMarker rest) :
    Writes ordinal name (indent ++ (".export".toList ++ (between ++ ("as".toList ++
      (gap ++ (spelled ++ rest))))))

namespace Blanks

theorem notMem (h : Blanks s) {c : Char} (hc : isBlank c = false) : c ∉ s :=
  fun hmem => ne_of_isBlank (h c hmem) hc rfl

theorem slash_notMem (h : Blanks s) : '/' ∉ s :=
  h.notMem (by decide +kernel)

theorem startsBlank_append (h : Blanks s) (hne : s ≠ []) (rest : List Char) :
    startsBlank (s ++ rest) = true := by
  obtain ⟨c, s, rfl⟩ := List.exists_cons_of_ne_nil hne
  exact h c List.mem_cons_self

end Blanks

/-! ### The ordinal -/

theorem isDigit_of_mem_decimal {zeros n : Nat} {c : Char} (hc : c ∈ decimal zeros n) :
    c.isDigit = true := by
  rcases List.mem_append.1 hc with hzero | hdigit
  · rw [List.eq_of_mem_replicate hzero]
    rfl
  · exact isDigit_of_mem_toDigits hdigit

theorem unpadded_decimal (zeros n : Nat) : Unpadded (decimal zeros n) :=
  unpadded_of_forall fun _ hc => isBlank_of_isDigit (isDigit_of_mem_decimal hc)

theorem digitsFrom?_decimal (zeros n : Nat) : digitsFrom? 10 0 (decimal zeros n) = some n := by
  induction zeros with
  | zero => exact digitsFrom?_toDigits n
  | succ zeros ih =>
    have hzero : digitValue? 10 '0' = some 0 := by decide
    rw [decimal, List.replicate_succ, List.cons_append, digitsFrom?, hzero]
    exact ih

theorem unsigned?_decimal (top zeros n : Nat) :
    unsigned? 10 top (decimal zeros n) = (some n).filter (· ≤ top) := by
  have hplus : (decimal zeros n).head? ≠ some '+' := by
    intro hhead
    cases isDigit_of_mem_decimal (List.mem_of_mem_head? hhead)
  rw [unsigned?_eq hplus, digits?, digitsFrom?_decimal]
  simp [decimal, Nat.toDigits_ne_nil]

theorem takeOrdinal?_of_head?_ne (h : s.head? ≠ some '[') : takeOrdinal? s = some (none, s) := by
  have hpiece : afterPiece? ['['] s = none := by
    refine afterPiece?_eq_none ?_
    rintro ⟨rest, rfl⟩
    exact h rfl
  rw [takeOrdinal?, hpiece]

theorem takeOrdinal?_bracket (h : ']' ∉ s) (rest : List Char) :
    takeOrdinal? ('[' :: (s ++ ']' :: rest)) =
      some (unsigned? 10 maxWord32 (trim s), trimStart rest) := by
  have hopening : afterPiece? ['['] ('[' :: (s ++ ']' :: rest)) = some (s ++ ']' :: rest) :=
    afterPiece?_append ['['] _
  rw [takeOrdinal?, hopening]
  dsimp only
  rw [cutFirst?_singleton h, Option.map_some]

/-- The directive is read as one whatever stands between it and `as`. -/
theorem WritesOrdinal.begins (h : WritesOrdinal ordinal s) (rest : List Char) :
    (startsBlank (s ++ rest) || (s ++ rest).head? == some '[') = true := by
  cases h with
  | absent hgap hne => rw [hgap.startsBlank_append hne, Bool.true_or]
  | @bracketed zeros n gap before after gap' hgap =>
    by_cases hne : gap = []
    · rw [hne]
      simp
    · rw [List.append_assoc, hgap.startsBlank_append hne, Bool.true_or]

/-- An ordinal is read if it fits in 32 bits, and is none otherwise. -/
theorem WritesOrdinal.takeOrdinal?_eq (h : WritesOrdinal ordinal s)
    (hrest : ∀ c ∈ rest.head?, isBlank c = false ∧ c ≠ '[') :
    takeOrdinal? (trimStart (s ++ rest)) = some (ordinal.filter (· ≤ maxWord32), rest) := by
  have hblank : ∀ c ∈ rest.head?, isBlank c = false := fun c hc => (hrest c hc).1
  cases h with
  | absent hgap hne =>
    rw [trimStart, dropWhile_isBlank_append hgap hblank,
      takeOrdinal?_of_head?_ne fun hhead => (hrest _ hhead).2 rfl]
    rfl
  | @bracketed zeros n gap before after gap' hgap hbefore hafter hgap' =>
    have hplain : isBlank '[' = false ∧ isBlank ']' = false := by decide +kernel
    -- The first closing bracket is that of the ordinal, and the name may have others.
    have hinner : ']' ∉ before ++ (decimal zeros n ++ after) := by
      simp only [List.mem_append, not_or]
      refine ⟨hbefore.notMem hplain.2, fun hdigit => ?_, hafter.notMem hplain.2⟩
      cases isDigit_of_mem_decimal hdigit
    rw [List.append_assoc, List.cons_append, List.append_assoc, List.cons_append, trimStart,
      dropWhile_isBlank_append hgap (by rintro c ⟨⟩; exact hplain.1), takeOrdinal?_bracket hinner,
      trim_append hbefore (unpadded_decimal zeros n) hafter, unsigned?_decimal, trimStart,
      dropWhile_isBlank_append hgap' hblank]

/-! ### The name -/

namespace WritesName

theorem ne_nil (h : WritesName name spelled) : name ≠ [] := by
  cases h with
  | bare hne => exact hne
  | quoted hne => exact hne

theorem unpadded (h : WritesName name spelled) : Unpadded spelled := by
  cases h with
  | bare _ hends => exact hends
  | quoted =>
    have hquote : isBlank '\'' = false := by decide +kernel
    exact unpadded_between hquote hquote name

theorem unquote_eq (h : WritesName name spelled) : unquote spelled = name := by
  cases h with
  | bare _ _ hquotes => exact unquote_eq_self hquotes
  | quoted => exact unquote_quoted name

/-- No comment begins in a name, nor with the slash at its end. -/
theorem beforeFirst_eq (h : WritesName name spelled) (hrest : rest.head? ≠ some '/') :
    beforeFirst "//".toList (spelled ++ rest) = spelled ++ beforeFirst "//".toList rest := by
  have hbehind (t : List Char) (ht : t.head? ≠ some '/') : ∀ c ∈ t.head?, c ∉ "//".toList := by
    rintro c hc hslash
    obtain rfl : c = '/' := by simpa using hslash
    exact ht hc
  cases h with
  | bare _ _ _ hremark => exact beforeFirst_append (.of_absent hremark (hbehind rest hrest))
  | quoted _ hremark =>
    have hquote (t : List Char) : beforeFirst "//".toList ('\'' :: t) =
        '\'' :: beforeFirst "//".toList t :=
      beforeFirst_slashless (s := ['\'']) (by decide) t
    rw [List.cons_append, hquote, List.append_assoc, List.singleton_append,
      beforeFirst_append (.of_absent hremark (hbehind _ (by simp))), hquote]
    simp

end WritesName

theorem EndsMarker.head?_ne (h : EndsMarker rest) : rest.head? ≠ some '/' := by
  intro hhead
  cases h with
  | blank hgap => exact hgap.slash_notMem (List.mem_of_mem_head? hhead)
  | remark hgap hne remark =>
    obtain ⟨c, gap, rfl⟩ := List.exists_cons_of_ne_nil hne
    obtain rfl : c = '/' := Option.some.inj hhead
    exact hgap.slash_notMem List.mem_cons_self

/-- Without its comment the end of a marker is blank. -/
theorem EndsMarker.blanks (h : EndsMarker rest) : Blanks (beforeFirst "//".toList rest) := by
  cases h with
  | blank hgap =>
    have hall := beforeFirst_slashless hgap.slash_notMem []
    rw [List.append_nil, show beforeFirst "//".toList [] = [] from rfl, List.append_nil] at hall
    rwa [hall]
  | remark hgap hne remark =>
    rw [beforeFirst_slashless hgap.slash_notMem, beforeFirst_comment, List.append_nil]
    exact hgap

theorem guard_eq {b : Bool} (h : b = true) : guard (b = true) = some () :=
  if_pos h

theorem nameAfterAs?_eq {gap : List Char} (hgap : Blanks gap) (hne : gap ≠ [])
    (hname : WritesName name spelled) (hrest : EndsMarker rest) :
    nameAfterAs? ("as".toList ++ (gap ++ (spelled ++ rest))) = some (String.ofList name) := by
  have hbefore : beforeFirst "//".toList (gap ++ (spelled ++ rest)) =
      gap ++ (spelled ++ beforeFirst "//".toList rest) := by
    rw [beforeFirst_slashless hgap.slash_notMem, hname.beforeFirst_eq hrest.head?_ne]
  have hnonempty : (!name.isEmpty) = true := by simpa using hname.ne_nil
  rw [nameAfterAs?, afterPiece?_append]
  dsimp only [Option.bind_eq_bind, Option.bind_some]
  rw [guard_eq (hgap.startsBlank_append hne _), hbefore,
    trim_append hgap hname.unpadded hrest.blanks, hname.unquote_eq, guard_eq hnonempty]
  rfl

/-- What is written for an ordinal and a name is read as the marker with both, but without an
ordinal that does not fit in 32 bits. -/
theorem ofLine?_written {line : List Char} (h : Writes ordinal name line) :
    ofLine? line = some ⟨ordinal.filter (· ≤ maxWord32), String.ofList name⟩ := by
  cases h with
  | @mk indent between gap spelled rest hindent hordinal hgap hne hname hrest =>
    have hplain : isBlank '.' = false ∧ isBlank 'a' = false := by decide +kernel
    have hindented (t : List Char) :
        trimStart (indent ++ (".export".toList ++ t)) = ".export".toList ++ t := by
      refine dropWhile_isBlank_append hindent ?_
      rintro c ⟨⟩
      exact hplain.1
    have htaken (t : List Char) : takeOrdinal? (trimStart (between ++ ("as".toList ++ t))) =
        some (ordinal.filter (· ≤ maxWord32), "as".toList ++ t) := by
      refine hordinal.takeOrdinal?_eq ?_
      rintro c ⟨⟩
      exact ⟨hplain.2, by decide⟩
    rw [ofLine?, hindented, afterPiece?_append]
    dsimp only [Option.bind_eq_bind, Option.bind_some]
    rw [guard_eq (hordinal.begins _), htaken]
    dsimp only [Option.bind_some]
    rw [nameAfterAs?_eq hgap hne hname hrest]
    rfl

theorem ofLine?_written_sampleMarkers :
    ofLine? "\t.export [ 0042 ]as \tas] 'x/ // [7] as y\r\n".toList =
        some ⟨some 42, "as] 'x/"⟩ ∧
      ofLine? ".export[4294967296] \n as ' ''a'' '".toList = some ⟨none, " ''a'' "⟩ := by
  have hnone : Blanks [] := nofun
  have hblank : Blanks [' '] ∧ Blanks ['\t'] ∧ Blanks [' ', '\t'] ∧ Blanks [' ', '\n', ' '] := by
    decide +kernel
  have hfits : WritesOrdinal (some 42) " [ 0042 ]".toList :=
    @WritesOrdinal.bracketed 2 42 _ _ _ _ hblank.1 hblank.1 hblank.1 hnone
  have hbeyond : WritesOrdinal (some 4294967296) "[4294967296] \n ".toList := by
    have hdigits : decimal 0 4294967296 = "4294967296".toList := by decide +kernel
    have hwritten := @WritesOrdinal.bracketed 0 4294967296 _ _ _ _ hnone hnone hnone hblank.2.2.2
    rwa [hdigits] at hwritten
  have hbare : WritesName "as] 'x/".toList "as] 'x/".toList := by
    refine .bare (by decide) (by decide +kernel) (fun inner hinner => ?_) (by decide +kernel)
    have hhead := congrArg List.head? hinner
    simp at hhead
  have hquoted : WritesName " ''a'' ".toList "' ''a'' '".toList :=
    .quoted (by decide) (by decide +kernel)
  have hremark : EndsMarker " // [7] as y\r\n".toList := .remark hblank.1 (by decide) _
  exact ⟨ofLine?_written (.mk hblank.2.1 hfits hblank.2.2.1 (by decide) hbare hremark),
    ofLine?_written (.mk hnone hbeyond hblank.1 (by decide) hquoted (.blank hnone))⟩

end ExportMarker

end PluginBuild.Listing
