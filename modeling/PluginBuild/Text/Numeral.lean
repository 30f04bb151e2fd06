/-!
# Numerals

Whole numbers written with digits and an optional sign, within given bounds.
-/

namespace PluginBuild.Text

/-- The value of a digit below `radix`, letters of either case standing for ten and more. -/
def digitValue? (radix : Nat) (c : Char) : Option Nat :=
  let value :=
    if '0' ≤ c ∧ c ≤ '9' then some (c.toNat - '0'.toNat)
    else if 'a' ≤ c ∧ c ≤ 'z' then some (c.toNat - 'a'.toNat + 10)
    else if 'A' ≤ c ∧ c ≤ 'Z' then some (c.toNat - 'A'.toNat + 10)
    else none
  value.filter (· < radix)

/-- The number whose digits follow those of `value`. -/
def digitsFrom? (radix value : Nat) : List Char → Option Nat
  | [] => some value
  | c :: rest => do digitsFrom? radix (value * radix + (← digitValue? radix c)) rest

/-- The number that one or more digits stand for. -/
def digits? (radix : Nat) : List Char → Option Nat
  | [] => none
  | s => digitsFrom? radix 0 s

/-- A number up to `top`, which a plus sign may precede. -/
def unsigned? (radix top : Nat) (s : List Char) : Option Nat :=
  let value := match s with
    | '+' :: rest => digits? radix rest
    | s => digits? radix s
  value.filter (· ≤ top)

/-- A decimal number from `bottom` to `top`, which a sign may precede. -/
def signed? (bottom top : Int) (s : List Char) : Option Int :=
  let value : Option Int := match s with
    | '-' :: rest => (digits? 10 rest).map fun n => -(n : Int)
    | '+' :: rest => (digits? 10 rest).map fun n => (n : Int)
    | s => (digits? 10 s).map fun n => (n : Int)
  value.filter fun n => bottom ≤ n ∧ n ≤ top

/-- The greatest number of 32 bits. -/
def maxWord32 : Nat := 4294967295

/-- The least number of 64 bits with a sign. -/
def minInt64 : Int := -9223372036854775808

/-- The greatest number of 64 bits with a sign. -/
def maxInt64 : Int := 9223372036854775807

theorem digitsFrom?_append (radix value : Nat) (s t : List Char) :
    digitsFrom? radix value (s ++ t) =
      (digitsFrom? radix value s).bind (digitsFrom? radix · t) := by
  induction s generalizing value with
  | nil => rfl
  | cons c s ih =>
    rw [List.cons_append, digitsFrom?, digitsFrom?]
    cases digitValue? radix c with
    | none => rfl
    | some digit => exact ih _

/-- Without a sign a number is what its digits stand for. -/
theorem unsigned?_eq {s : List Char} (h : s.head? ≠ some '+') (radix top : Nat) :
    unsigned? radix top s = (digits? radix s).filter (· ≤ top) := by
  unfold unsigned?
  split
  · exact absurd rfl h
  · rfl

/-! ### Numbers in base ten -/

theorem digitValue?_digitChar : ∀ digit < 10,
    digitValue? 10 (Nat.digitChar digit) = some digit := by decide

theorem digitsFrom?_toDigits (n : Nat) : digitsFrom? 10 0 (Nat.toDigits 10 n) = some n := by
  induction n using Nat.strongRecOn with
  | ind n ih =>
    by_cases hn : n < 10
    · rw [Nat.toDigits_of_lt_base hn, digitsFrom?, digitValue?_digitChar n hn]
      simp [digitsFrom?]
    · have hlast := digitValue?_digitChar (n % 10) (Nat.mod_lt n (by decide))
      rw [Nat.toDigits_of_base_le (by decide) (Nat.le_of_not_lt hn), digitsFrom?_append,
        ih (n / 10) (by omega), Option.bind_some, digitsFrom?, hlast]
      simp only [digitsFrom?, Option.bind_eq_bind, Option.bind_some, Option.some.injEq]
      omega

/-- The digits of a number stand for it. -/
theorem digits?_toDigits (n : Nat) : digits? 10 (Nat.toDigits 10 n) = some n := by
  rw [digits?, digitsFrom?_toDigits]
  exact Nat.toDigits_ne_nil

theorem isDigit_of_mem_toDigits {n : Nat} {c : Char} (hc : c ∈ Nat.toDigits 10 n) :
    c.isDigit = true :=
  Nat.isDigit_of_mem_toDigits (by decide) (by decide) hc

theorem toList_toString_neg (n : Nat) :
    (toString (Int.negSucc n)).toList = '-' :: Nat.toDigits 10 (n + 1) := by
  rw [show toString (Int.negSucc n) = "-" ++ (n + 1).repr from rfl, String.toList_append,
    Nat.toList_repr]
  rfl

end PluginBuild.Text
