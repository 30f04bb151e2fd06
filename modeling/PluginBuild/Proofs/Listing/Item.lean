import PluginBuild.Listing.Item
import PluginBuild.Proofs.Listing.Spelling
import PluginBuild.Proofs.Text.Blank
/-!
# Identifiers and items of a list

An identifier is plain, with generic parameters or quoted (`Identifies`). A list is cut at the
commas outside all brackets and quotes. What is closed can stand in brackets (`Enclosed`), and an
item is made of such parts and of characters other than commas (`IsItem`). Items with commas between
them are the items of the list (`items_joined`).
-/

namespace PluginBuild.Listing

open Text

variable {s t rest : List Char}

/-! ### Identifiers -/

/-- The word that states an identifier. -/
inductive Identifies : List Char → List Char → Prop
  | plain {name : List Char} (hne : name ≠ []) (hname : IsPlainWord name) : Identifies name name
  | generic {name params : List Char} (hne : name ≠ []) (hname : IsPlainWord name)
    (hparams : Balanced '<' '>' params) : Identifies (name ++ '<' :: (params ++ ['>'])) name
  | quoted {name : List Char} (hname : LiteralBody '\'' name) :
    Identifies ('\'' :: (name ++ ['\''])) name

theorem unquote_quoted (s : List Char) : unquote ('\'' :: (s ++ ['\''])) = s := by
  simp [unquote]

theorem unquote_eq_self (h : ∀ inner, s ≠ '\'' :: (inner ++ ['\''])) : unquote s = s := by
  unfold unquote
  split
  · next rest =>
    refine if_neg fun hlast => ?_
    obtain ⟨inner, rfl⟩ := List.getLast?_eq_some_iff.1 hlast
    exact h inner rfl
  · rfl

theorem unquote_of_head?_ne (h : s.head? ≠ some '\'') : unquote s = s :=
  unquote_eq_self fun inner hs => h (by rw [hs, List.head?_cons])

theorem head?_append_of_isPlainWord (hne : s ≠ []) (h : IsPlainWord s) (rest : List Char) :
    (s ++ rest).head? ≠ some '\'' := by
  obtain ⟨c, s, rfl⟩ := List.exists_cons_of_ne_nil hne
  rintro ⟨⟩
  have hmarks := (h '\'' (by simp)).2
  simp at hmarks

theorem head?_of_isPlainWord (hne : s ≠ []) (h : IsPlainWord s) : s.head? ≠ some '\'' := by
  have hhead := head?_append_of_isPlainWord hne h []
  rwa [List.append_nil] at hhead

theorem IsPlainWord.not_mem (h : IsPlainWord s) : '<' ∉ s := by
  intro hmem
  have hmarks := (h _ hmem).2
  simp at hmarks

/-- A name ends before its generic parameters. -/
theorem takeWhile_generic (h : '<' ∉ s) (hrest : ∀ c ∈ rest.head?, c = '<') :
    (s ++ rest).takeWhile (· ≠ '<') = s := by
  have hplain : ∀ c ∈ s, decide (c ≠ '<') = true := by
    intro c hc
    exact decide_eq_true fun heq => h (heq ▸ hc)
  rw [List.takeWhile_append_of_pos hplain]
  cases rest with
  | nil => rw [List.takeWhile_nil, List.append_nil]
  | cons c rest => rw [List.takeWhile_cons_of_neg (by simp [hrest c rfl]), List.append_nil]

theorem takeWhile_plain (h : '<' ∉ s) : s.takeWhile (· ≠ '<') = s := by
  have htake := @takeWhile_generic s [] h nofun
  rwa [List.append_nil] at htake

/-! ### Closed parts and items -/

/-- No quote and no bracket of any kind. -/
def Unmarked (c : Char) : Prop := c ∉ quotes ∧ ∀ pair ∈ brackets, c ≠ pair.1 ∧ c ≠ pair.2

instance : DecidablePred Unmarked := fun _ => inferInstanceAs (Decidable (_ ∧ _))

theorem unmarked_iff {c : Char} :
    Unmarked c ↔ c ∉ ['\'', '"', '(', ')', '[', ']', '<', '>'] := by
  simp [Unmarked, quotes, brackets, and_assoc]

/-- What is closed: brackets of each kind have their counterparts, and a literal has none of its
quotes in it, escaped or not. -/
inductive Enclosed : List Char → Prop
  | nil : Enclosed []
  | char {c : Char} {s : List Char} (hmark : Unmarked c) (hs : Enclosed s) : Enclosed (c :: s)
  | literal {quote : Char} {body s : List Char} (hquote : quote ∈ quotes) (hmem : quote ∉ body)
    (hs : Enclosed s) : Enclosed (quote :: (body ++ quote :: s))
  | nested {opening closing : Char} {inner s : List Char} (hpair : (opening, closing) ∈ brackets)
    (hinner : Enclosed inner) (hs : Enclosed s) :
    Enclosed (opening :: (inner ++ closing :: s))

/-- What can be one item of a list. -/
inductive IsItem : List Char → Prop
  | nil : IsItem []
  | char {c : Char} {s : List Char} (hmark : Unmarked c) (hcomma : c ≠ ',') (hs : IsItem s) :
    IsItem (c :: s)
  | literal {quote : Char} {body s : List Char} (hquote : quote ∈ quotes) (hmem : quote ∉ body)
    (hs : IsItem s) : IsItem (quote :: (body ++ quote :: s))
  | nested {opening closing : Char} {inner s : List Char} (hpair : (opening, closing) ∈ brackets)
    (hinner : Enclosed inner) (hs : IsItem s) : IsItem (opening :: (inner ++ closing :: s))

theorem enclosed_of_forall_unmarked (h : ∀ c ∈ s, Unmarked c) : Enclosed s := by
  induction s with
  | nil => exact .nil
  | cons c s ih =>
    obtain ⟨hmark, hs⟩ := List.forall_mem_cons.1 h
    exact .char hmark (ih hs)

theorem IsItem.append (hs : IsItem s) (ht : IsItem t) : IsItem (s ++ t) := by
  induction hs with
  | nil => exact ht
  | char hmark hcomma _ ih => exact .char hmark hcomma ih
  | literal hquote hmem _ ih =>
    rw [List.cons_append, List.append_assoc]
    exact .literal hquote hmem ih
  | nested hpair hinner _ ih =>
    rw [List.cons_append, List.append_assoc]
    exact .nested hpair hinner ih

theorem isItem_of_forall_unmarked (h : ∀ c ∈ s, Unmarked c ∧ c ≠ ',') : IsItem s := by
  induction s with
  | nil => exact .nil
  | cons c s ih =>
    obtain ⟨⟨hmark, hcomma⟩, hs⟩ := List.forall_mem_cons.1 h
    exact .char hmark hcomma (ih hs)

theorem isItem_of_isBlank (h : ∀ c ∈ s, isBlank c = true) : IsItem s := by
  have hmarks : ∀ d ∈ ['\'', '"', '(', ')', '[', ']', '<', '>', ','], isBlank d = false := by
    decide +kernel
  refine isItem_of_forall_unmarked fun c hc => ⟨unmarked_iff.2 fun hmem => ?_, ?_⟩
  · exact ne_of_isBlank (h c hc) (hmarks c (List.mem_append_left [','] hmem)) rfl
  · exact ne_of_isBlank (h c hc) (hmarks ',' (by decide))

/-! ### Cutting a list -/

/-- The pieces with a text in front of the first one. -/
def inFront (s : List Char) (pieces : List (List Char)) : List (List Char) :=
  pieces.modifyHead (s ++ ·)

theorem inFront_inFront (s t : List Char) (pieces : List (List Char)) :
    inFront s (inFront t pieces) = inFront (s ++ t) pieces := by
  cases pieces with
  | nil => rfl
  | cons piece pieces => simp [inFront]

section

variable {depth : Int}

/-- A character that is no comma between items goes into its piece. -/
theorem piecesFrom_cons {c : Char} (hquote : c ∉ quotes) (hcomma : ¬(c = ',' ∧ depth = 0)) :
    piecesFrom depth none (c :: s) = inFront [c] (piecesFrom (depth + bracketStep c) none s) := by
  simp only [quotes, List.mem_cons, List.not_mem_nil, or_false] at hquote
  rw [piecesFrom]
  dsimp only
  rw [if_neg hcomma, if_neg hquote]
  rfl

theorem piecesFrom_unmarked {c : Char} (h : Unmarked c) (hcomma : ¬(c = ',' ∧ depth = 0)) :
    piecesFrom depth none (c :: s) = inFront [c] (piecesFrom depth none s) := by
  have hmarks := unmarked_iff.1 h
  simp only [List.mem_cons, not_or] at hmarks
  have hstep : bracketStep c = 0 := by simp [bracketStep, hmarks]
  rw [piecesFrom_cons h.1 hcomma, hstep, Int.add_zero]

theorem piecesFrom_quote {quote : Char} (hquote : quote ∈ quotes) :
    piecesFrom depth none (quote :: s) = inFront [quote] (piecesFrom depth (some quote) s) := by
  simp only [quotes, List.mem_cons, List.not_mem_nil, or_false] at hquote
  have hstep : bracketStep quote = 0 := by rcases hquote with rfl | rfl <;> rfl
  have hcomma : ¬(quote = ',' ∧ depth = 0) := by
    rintro ⟨rfl, -⟩
    revert hquote
    decide
  rw [piecesFrom]
  dsimp only
  rw [if_neg hcomma, if_pos hquote, hstep, Int.add_zero]
  rfl

/-- A literal goes into its piece up to the next quote like the first. -/
theorem piecesFrom_literal {quote : Char} (hquote : quote ∈ quotes) (hmem : quote ∉ s)
    (rest : List Char) :
    piecesFrom depth none (quote :: (s ++ quote :: rest)) =
      inFront (quote :: (s ++ [quote])) (piecesFrom depth none rest) := by
  have hbody : piecesFrom depth (some quote) (s ++ quote :: rest) =
      inFront (s ++ [quote]) (piecesFrom depth none rest) := by
    induction s with
    | nil => simp [piecesFrom, inFront]
    | cons c s ih =>
      rw [List.mem_cons, not_or] at hmem
      rw [List.cons_append, piecesFrom, if_neg (Ne.symm hmem.1), ih hmem.2]
      exact inFront_inFront [c] _ _
  rw [piecesFrom_quote hquote, hbody, inFront_inFront]
  rfl

/-- Brackets around a text take it in with them. -/
theorem piecesFrom_nested {opening closing : Char} (hpair : (opening, closing) ∈ brackets)
    (hinner : ∀ rest, piecesFrom (depth + 1) none (s ++ rest) =
      inFront s (piecesFrom (depth + 1) none rest)) (rest : List Char) :
    piecesFrom depth none (opening :: (s ++ closing :: rest)) =
      inFront (opening :: (s ++ [closing])) (piecesFrom depth none rest) := by
  have hstep : bracketStep opening = 1 ∧ bracketStep closing = -1 ∧ opening ≠ ',' ∧
      closing ≠ ',' := by
    simp only [brackets, List.mem_cons, List.not_mem_nil, Prod.mk.injEq, or_false] at hpair
    rcases hpair with ⟨rfl, rfl⟩ | ⟨rfl, rfl⟩ | ⟨rfl, rfl⟩ <;> decide
  obtain ⟨⟨hquote, -⟩, hquote', -⟩ := brackets_apart hpair
  rw [piecesFrom_cons hquote (by simp [hstep]), hstep.1, hinner,
    piecesFrom_cons hquote' (by simp [hstep]), hstep.2.1, Int.add_neg_cancel_right,
    inFront_inFront, inFront_inFront]
  simp

/-- What is closed goes into the piece that the brackets around it are in. -/
theorem piecesFrom_enclosed (h : Enclosed s) (hdepth : 0 < depth) (rest : List Char) :
    piecesFrom depth none (s ++ rest) = inFront s (piecesFrom depth none rest) := by
  -- A comma counts only where no bracket is open.
  have hne : depth ≠ 0 := Int.ne_of_gt hdepth
  induction h generalizing depth rest with
  | nil => cases hpieces : piecesFrom depth none rest <;> simp [inFront, hpieces]
  | char hmark _ ih =>
    rw [List.cons_append, piecesFrom_unmarked hmark (by simp [hne]), ih hdepth rest hne,
      inFront_inFront]
    rfl
  | literal hquote hmem _ ih =>
    rw [List.cons_append, List.append_assoc, List.cons_append, piecesFrom_literal hquote hmem,
      ih hdepth rest hne, inFront_inFront]
    simp
  | nested hpair _ _ ihinner ih =>
    rw [List.cons_append, List.append_assoc, List.cons_append,
      piecesFrom_nested hpair (fun rest => ihinner (by omega) rest (by omega)),
      ih hdepth rest hne, inFront_inFront]
    simp

end

theorem piecesFrom_isItem (h : IsItem s) (rest : List Char) :
    piecesFrom 0 none (s ++ rest) = inFront s (piecesFrom 0 none rest) := by
  induction h with
  | nil => cases hpieces : piecesFrom 0 none rest <;> simp [inFront, hpieces]
  | char hmark hcomma _ ih =>
    rw [List.cons_append, piecesFrom_unmarked hmark (by simp [hcomma]), ih, inFront_inFront]
    rfl
  | literal hquote hmem _ ih =>
    rw [List.cons_append, List.append_assoc, List.cons_append, piecesFrom_literal hquote hmem, ih,
      inFront_inFront]
    simp
  | nested hpair hinner _ ih =>
    rw [List.cons_append, List.append_assoc, List.cons_append,
      piecesFrom_nested hpair (piecesFrom_enclosed hinner (by decide)), ih,
      inFront_inFront]
    simp

/-- Items with commas between them. -/
def joined (items : List (List Char)) : List Char := List.intercalate [','] items

theorem joined_cons_cons (s t : List Char) (more : List (List Char)) :
    joined (s :: t :: more) = s ++ ',' :: joined (t :: more) := by
  simp [joined]

theorem piecesFrom_joined {parts : List (List Char)} (hne : parts ≠ [])
    (h : ∀ part ∈ parts, IsItem part) : piecesFrom 0 none (joined parts) = parts := by
  induction parts with
  | nil => exact absurd rfl hne
  | cons part parts ih =>
    obtain ⟨hpart, hparts⟩ := List.forall_mem_cons.1 h
    cases parts with
    | nil =>
      have hpiece := piecesFrom_isItem hpart []
      rw [List.append_nil] at hpiece
      simp [joined, hpiece, piecesFrom, inFront]
    | cons next parts =>
      rw [joined_cons_cons, piecesFrom_isItem hpart, piecesFrom]
      dsimp only
      rw [if_pos ⟨rfl, rfl⟩, ih (by simp) hparts]
      simp [inFront]

/-- Items with commas between them are those of their list, without the blanks around them. -/
theorem items_joined {parts : List (List Char)} (h : ∀ part ∈ parts, IsItem part ∧ trim part ≠ []) :
    items (joined parts) = parts.map trim := by
  cases parts with
  | nil => decide +kernel
  | cons part parts =>
    -- A last piece that is blank would be left out.
    have hlast : ((part :: parts).map trim).getLast? ≠ some [] := by
      intro hlast
      obtain ⟨last, hmem, hblank⟩ := List.mem_map.1 (List.mem_of_getLast? hlast)
      exact (h last hmem).2 hblank
    rw [items, piecesFrom_joined (by simp) fun part hpart => (h part hpart).1]
    exact if_neg hlast

end PluginBuild.Listing
