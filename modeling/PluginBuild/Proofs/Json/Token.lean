import Mathlib.Data.List.Basic
import Mathlib.Data.List.TakeWhile
import Mathlib.Tactic.SplitIfs
import PluginBuild.Json.Printer
import PluginBuild.Json.Token
/-!
# Tokens of printed text

How the words, numbers and strings that are printed are cut off a text again. Each is a token of its
own as long as what follows is apart from it (`Lexes`), and texts that are cut into tokens can be
put one behind the other (`Lexes.append`).
-/

namespace PluginBuild.Json

/-! ## Numbers -/

open Nat (toDigits)
open Text (digits?_toDigits isDigit_of_mem_toDigits toList_toString_neg)

theorem head?_toDigits {n : Nat} (hn : 0 < n) : (toDigits 10 n).head? ≠ some '0' := by
  induction n using Nat.strongRecOn with
  | ind n ih =>
    by_cases hlt : n < 10
    · rw [Nat.toDigits_of_lt_base hlt]
      have hdigits : ∀ digit < 10, 0 < digit → [Nat.digitChar digit].head? ≠ some '0' := by decide
      exact hdigits n hlt hn
    · rw [Nat.toDigits_of_base_le (by decide) (Nat.le_of_not_lt hlt),
        List.head?_append_of_ne_nil _ Nat.toDigits_ne_nil]
      exact ih (n / 10) (by omega) (by omega)

theorem takeWhile_toDigits (n : Nat) : (toDigits 10 n).takeWhile Char.isDigit = toDigits 10 n :=
  List.takeWhile_eq_self_iff.2 fun _ => isDigit_of_mem_toDigits

theorem dropWhile_toDigits (n : Nat) : (toDigits 10 n).dropWhile Char.isDigit = [] :=
  List.dropWhile_eq_nil_iff.2 fun _ => isDigit_of_mem_toDigits

theorem number?_toDigits (n : Nat) : number? (toDigits 10 n) = some (.integer n) := by
  have hsign : ((toDigits 10 n).head? == some '-') = false := by
    rw [beq_eq_false_iff_ne]
    intro hhead
    exact absurd (isDigit_of_mem_toDigits (List.mem_of_head? hhead)) (by decide)
  have hzero : ((toDigits 10 n).length == 1 || (toDigits 10 n).head? != some '0') = true := by
    cases n with
    | zero => rfl
    | succ n => simp [head?_toDigits (Nat.succ_pos n)]
  simp [number?, hsign, hzero, takeWhile_toDigits, dropWhile_toDigits, digits?_toDigits, isFraction,
    guard]

theorem number?_neg {n : Nat} (hn : 0 < n) :
    number? ('-' :: toDigits 10 n) = some (.integer (-n)) := by
  have hne : n ≠ 0 := Nat.ne_of_gt hn
  simp [number?, head?_toDigits hn, takeWhile_toDigits, dropWhile_toDigits, digits?_toDigits,
    isFraction, guard, hne]

/-- The text of a number is read as the number. -/
theorem number?_toString (n : Int) : number? (toString n).toList = some (.integer n) := by
  cases n with
  | ofNat n =>
    rw [show toString (Int.ofNat n) = n.repr from rfl, Nat.toList_repr, number?_toDigits]
    rfl
  | negSucc n =>
    rw [toList_toString_neg, number?_neg (Nat.succ_pos n)]
    rfl

/-! ## Strings -/

section Strings

variable (s : StringSoFar) (rest : List Char) {a b c d e : Char} {unit : Nat}

theorem stringFrom_quote : stringFrom s ('"' :: rest) = some (s.close, rest) := by
  rw [stringFrom.eq_def]
  exact if_pos rfl

theorem stringFrom_letter (he : e ≠ 'u') (h : escaped? e = some c) :
    stringFrom s ('\\' :: e :: rest) = stringFrom (s.push c) rest := by
  rw [stringFrom.eq_def]
  simp [he, h]

theorem stringFrom_unit (h : Text.digits? 16 [a, b, c, d] = some unit) :
    stringFrom s ('\\' :: 'u' :: a :: b :: c :: d :: rest) =
      stringFrom (s.pushUnit unit) rest := by
  rw [stringFrom.eq_def]
  simp [h]

theorem stringFrom_char (hquote : c ≠ '"') (hslash : c ≠ '\\') (hcontrol : ¬c.toNat < 0x20) :
    stringFrom s (c :: rest) = stringFrom (s.push c) rest := by
  rw [stringFrom.eq_def]
  simp [hquote, hslash, hcontrol]

end Strings

theorem digits?_hexDigits : ∀ n < 0x20,
    Text.digits? 16 ['0', '0', hexDigit (n / 16), hexDigit (n % 16)] = some n := by decide

/-- A character is read as itself, whether it is written as it is or as an escape. -/
theorem stringFrom_escape (chars : List Char) (c : Char) (rest : List Char) :
    stringFrom ⟨chars, none, false⟩ (escape c ++ rest) =
      stringFrom ⟨c :: chars, none, false⟩ rest := by
  unfold escape
  split_ifs with hquote hslash hback hform hfeed hreturn htab hcontrol
  case pos => rw [hquote]; exact stringFrom_letter _ rest (by decide) rfl
  case pos => rw [hslash]; exact stringFrom_letter _ rest (by decide) rfl
  case pos => rw [hback]; exact stringFrom_letter _ rest (by decide) rfl
  case pos => rw [hform]; exact stringFrom_letter _ rest (by decide) rfl
  case pos => rw [hfeed]; exact stringFrom_letter _ rest (by decide) rfl
  case pos => rw [hreturn]; exact stringFrom_letter _ rest (by decide) rfl
  case pos => rw [htab]; exact stringFrom_letter _ rest (by decide) rfl
  case pos =>
    have hunit : StringSoFar.pushUnit ⟨chars, none, false⟩ c.toNat = ⟨c :: chars, none, false⟩ := by
      rw [StringSoFar.pushUnit, if_neg (by omega), if_neg (by omega), Char.ofNat_toNat]
      rfl
    rw [← hunit]
    exact stringFrom_unit _ rest (digits?_hexDigits c.toNat hcontrol)
  case neg => exact stringFrom_char _ rest hquote hslash hcontrol

/-- The characters between the quotes of a string are read as the string. -/
theorem stringFrom_escapes (chars s rest : List Char) :
    stringFrom ⟨chars, none, false⟩ (s.flatMap escape ++ '"' :: rest) =
      some (some (String.ofList (chars.reverse ++ s)), rest) := by
  induction s generalizing chars with
  | nil =>
    rw [List.flatMap_nil, List.nil_append, stringFrom_quote, List.append_nil]
    rfl
  | cons c s ih =>
    rw [List.flatMap_cons, List.append_assoc, stringFrom_escape, ih, List.reverse_cons,
      List.append_assoc, List.singleton_append]

/-! ## Tokens -/

/-- The text neither goes on with a number or a word nor begins with one. -/
def IsApart (rest : List Char) : Prop :=
  ∀ c ∈ rest.head?, isNumberChar c = false ∧ c.isAlpha = false

/-- A text that is cut into tokens, whatever comes next that is apart from it. -/
def Lexes (s : List Char) (tokens : List Token) : Prop :=
  ∀ rest, IsApart rest → tokens? (s ++ rest) = (tokens? rest).map (tokens ++ ·)

/-- A character that is a token of its own. -/
structure IsMark (c : Char) (token : Token) : Prop where
  not_space : isSpace c = false
  takeToken?_eq : ∀ rest, takeToken? c rest = some (token, rest)
  apart : isNumberChar c = false ∧ c.isAlpha = false

section Tokens

variable {s t blanks rest after : List Char} {ts us : List Token} {token : Token} {c : Char}

theorem isMark_openArray : IsMark '[' .openArray := ⟨rfl, fun _ => rfl, rfl, rfl⟩

theorem isMark_closeArray : IsMark ']' .closeArray := ⟨rfl, fun _ => rfl, rfl, rfl⟩

theorem isMark_openObject : IsMark '\x7b' .openObject := ⟨rfl, fun _ => rfl, rfl, rfl⟩

theorem isMark_closeObject : IsMark '\x7d' .closeObject := ⟨rfl, fun _ => rfl, rfl, rfl⟩

theorem isMark_comma : IsMark ',' .comma := ⟨rfl, fun _ => rfl, rfl, rfl⟩

theorem isMark_colon : IsMark ':' .colon := ⟨rfl, fun _ => rfl, rfl, rfl⟩

theorem IsApart.nil : IsApart [] := nofun

theorem IsMark.isApart (h : IsMark c token) (rest : List Char) : IsApart (c :: rest) := by
  rintro _ ⟨⟩
  exact h.apart

theorem IsApart.blanks_append (hblanks : ∀ c ∈ blanks, isSpace c = true) (h : IsApart rest) :
    IsApart (blanks ++ rest) := by
  cases blanks with
  | nil => exact h
  | cons c blanks =>
    rintro _ ⟨⟩
    have hspace := hblanks c List.mem_cons_self
    simp only [isSpace, Bool.or_eq_true, beq_iff_eq] at hspace
    rcases hspace with ((rfl | rfl) | rfl) | rfl <;> decide

theorem tokens?_cons (hc : isSpace c = false) (h : takeToken? c rest = some (token, after)) :
    tokens? (c :: rest) = (tokens? after).map (token :: ·) := by
  rw [tokens?, if_neg (by simp [hc])]
  split
  · next hnone =>
    rw [h] at hnone
    cases hnone
  · next r hr =>
    obtain rfl := Option.some.inj (h.symm.trans hr)
    rfl

theorem lexes_nil : Lexes [] [] := fun rest _ => by simp

theorem Lexes.blanks_append (hblanks : ∀ c ∈ blanks, isSpace c = true) (h : Lexes s ts) :
    Lexes (blanks ++ s) ts := by
  induction blanks with
  | nil => exact h
  | cons c blanks ih =>
    rw [List.forall_mem_cons] at hblanks
    intro rest hrest
    rw [List.cons_append, List.cons_append, tokens?, if_pos hblanks.1]
    exact ih hblanks.2 rest hrest

theorem Lexes.mark_cons (hmark : IsMark c token) (h : Lexes s ts) :
    Lexes (c :: s) (token :: ts) := by
  intro rest hrest
  rw [List.cons_append, tokens?_cons hmark.not_space (hmark.takeToken?_eq _), h rest hrest,
    Option.map_map]
  rfl

theorem Lexes.append (h : Lexes s ts) (ht : Lexes t us)
    (hapart : ∀ rest, IsApart rest → IsApart (t ++ rest)) : Lexes (s ++ t) (ts ++ us) := by
  intro rest hrest
  rw [List.append_assoc, h _ (hapart rest hrest), ht rest hrest, Option.map_map]
  congr 1
  funext tokens
  exact (List.append_assoc ts us tokens).symm

/-- A token whose characters end where the next one is apart is cut off. -/
theorem lexes_token (hc : isSpace c = false)
    (h : ∀ rest, IsApart rest → takeToken? c (s ++ rest) = some (token, rest)) :
    Lexes (c :: s) [token] := by
  intro rest hrest
  exact tokens?_cons hc (h rest hrest)

theorem lexes_quote (s : String) : Lexes (quote s).toList [.string (some s)] := by
  rw [quote, String.toList_ofList, List.cons_append]
  refine lexes_token rfl fun rest _ => ?_
  have hread := stringFrom_escapes [] s.toList rest
  rw [List.reverse_nil, List.nil_append, String.ofList_toList] at hread
  rw [List.append_assoc, List.singleton_append]
  change (stringFrom .empty _).map _ = _
  rw [StringSoFar.empty, hread]
  rfl

theorem takeWhile_append_of_isApart {p : Char → Bool}
    (hp : ∀ c, isNumberChar c = false ∧ c.isAlpha = false → p c = false)
    (hs : ∀ c ∈ s, p c = true) (hrest : IsApart rest) :
    (s ++ rest).takeWhile p = s ∧ (s ++ rest).dropWhile p = rest := by
  rw [List.takeWhile_append_of_pos hs, List.dropWhile_append_of_pos hs]
  cases rest with
  | nil => simp
  | cons c rest =>
    have hc := hp c (hrest c rfl)
    simp [hc]

/-- The characters that stand for themselves, begin a string or are blank. -/
def punctuation : List Char := ['[', ']', '\x7b', '\x7d', ',', ':', '"', ' ', '\t', '\n', '\r']

theorem ne_of_mem_punctuation (h : isNumberChar c = true ∨ c.isAlpha = true) :
    ∀ mark ∈ punctuation, c ≠ mark := by
  have happart : (punctuation.all fun mark => !isNumberChar mark && !mark.isAlpha) = true := rfl
  rintro mark hmark rfl
  have hmark := List.all_eq_true.1 happart c hmark
  simp only [Bool.and_eq_true, Bool.not_eq_true'] at hmark
  rw [hmark.1, hmark.2] at h
  simp at h

/-- A word is cut off whole. -/
theorem lexes_word {value : Json} (hword : word? (c :: s) = some value)
    (hletters : (c :: s).all Char.isAlpha = true) : Lexes (c :: s) [.scalar value] := by
  rw [List.all_eq_true, List.forall_mem_cons] at hletters
  have hne := ne_of_mem_punctuation (.inr hletters.1)
  simp only [punctuation, List.forall_mem_cons] at hne
  refine lexes_token (by simp [isSpace, hne]) fun rest hrest => ?_
  obtain ⟨htake, hdrop⟩ := takeWhile_append_of_isApart (fun _ h => h.2) hletters.2 hrest
  simp [takeToken?, hne, hletters.1, htake, hdrop, hword]

theorem lexes_null : Lexes (scalarText .null).toList [.scalar .null] := by
  have htext : (scalarText .null).toList = ['n', 'u', 'l', 'l'] := rfl
  rw [htext]
  exact lexes_word rfl rfl

theorem lexes_bool (b : Bool) : Lexes (scalarText (.bool b)).toList [.scalar (.bool b)] := by
  cases b with
  | true =>
    have htext : (scalarText (.bool true)).toList = ['t', 'r', 'u', 'e'] := rfl
    rw [htext]
    exact lexes_word rfl rfl
  | false =>
    have htext : (scalarText (.bool false)).toList = ['f', 'a', 'l', 's', 'e'] := rfl
    rw [htext]
    exact lexes_word rfl rfl

/-- A number is cut off whole. -/
theorem lexes_number {value : Json} (hnumber : number? (c :: s) = some value)
    (hstart : c.isAlpha = false) (hchars : ∀ x ∈ c :: s, isNumberChar x = true) :
    Lexes (c :: s) [.scalar value] := by
  rw [List.forall_mem_cons] at hchars
  have hne := ne_of_mem_punctuation (.inl hchars.1)
  simp only [punctuation, List.forall_mem_cons] at hne
  refine lexes_token (by simp [isSpace, hne]) fun rest hrest => ?_
  obtain ⟨htake, hdrop⟩ := takeWhile_append_of_isApart (fun _ h => h.1) hchars.2 hrest
  simp [takeToken?, hne, hstart, htake, hdrop, hnumber]

theorem isNumberChar_of_isDigit (h : c.isDigit = true) : isNumberChar c = true := by
  simp [isNumberChar, h]

theorem isAlpha_of_isDigit (h : c.isDigit = true) : c.isAlpha = false := by
  -- The codes of the digits come before those of all letters.
  change (decide (c.val ≥ '0'.val) && decide (c.val ≤ '9'.val)) = true at h
  change (decide (c.val ≥ 'A'.val ∧ c.val ≤ 'Z'.val) ||
    decide (c.val ≥ 'a'.val) && decide (c.val ≤ 'z'.val)) = false
  grind

theorem lexes_integer (n : Int) : Lexes (toString n).toList [.scalar (.integer n)] := by
  have hnumber := number?_toString n
  cases n with
  | ofNat n =>
    have htext : (toString (Int.ofNat n)).toList = toDigits 10 n := Nat.toList_repr
    rw [htext] at hnumber ⊢
    cases hdigits : toDigits 10 n with
    | nil => exact absurd hdigits Nat.toDigits_ne_nil
    | cons c s =>
      have hall : ∀ x ∈ c :: s, x.isDigit = true := by
        rw [← hdigits]
        exact fun _ => isDigit_of_mem_toDigits
      rw [hdigits] at hnumber
      exact lexes_number hnumber (isAlpha_of_isDigit (hall c List.mem_cons_self))
        fun x hx => isNumberChar_of_isDigit (hall x hx)
  | negSucc n =>
    rw [toList_toString_neg] at hnumber ⊢
    refine lexes_number hnumber rfl (List.forall_mem_cons.2 ⟨rfl, fun x hx => ?_⟩)
    exact isNumberChar_of_isDigit (isDigit_of_mem_toDigits hx)

end Tokens

end PluginBuild.Json
