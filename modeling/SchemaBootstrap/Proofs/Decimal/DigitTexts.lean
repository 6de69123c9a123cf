import Mathlib.Algebra.Group.Nat.Defs
import Mathlib.Data.List.Induction
import Mathlib.Data.List.TakeWhile
import SchemaBootstrap.Decimal.Reading
import SchemaBootstrap.Decimal.Shortest

/-! # Texts of digits

The number that digits spell (`Double.digitsValue`) is read off the decimal digits of a natural
number (`Double.digitsValue_toDigits`), which begin with a zero for zero only
(`Double.head?_toDigits`). Without the zeros at their end they spell a number that the missing
powers of ten make up for (`Double.exists_stripZeros`).
-/

namespace SchemaBootstrap

namespace Double

/-- Digits spell the number that the library makes of them. -/
theorem digitsValue_eq (digits : List Char) :
    digitsValue digits = Nat.ofDigitChars 10 digits 0 := by
  rw [digitsValue, Nat.ofDigitChars_eq_foldl]
  simp only [Nat.mul_comm]

/-- The digits of a number spell it. -/
theorem digitsValue_toDigits (n : Nat) : digitsValue (Nat.toDigits 10 n) = n := by
  rw [digitsValue_eq, Nat.ofDigitChars_ten_toDigits]

/-- All digits of a number are digits. -/
theorem isDigit_of_mem_toDigits {n : Nat} {c : Char} (member : c ∈ Nat.toDigits 10 n) :
    c.isDigit = true :=
  Nat.isDigit_of_mem_toDigits (by decide) (by decide) member

/-- Digits before others count for as many powers of ten as there are others. -/
theorem digitsValue_append (digits others : List Char) :
    digitsValue (digits ++ others) =
      digitsValue digits * 10 ^ others.length + digitsValue others := by
  simp only [digitsValue_eq, Nat.ofDigitChars_append]
  rw [Nat.ofDigitChars_eq_ofDigitChars_zero, Nat.mul_comm]

/-- Zeros alone spell zero. -/
theorem digitsValue_replicate (count : Nat) : digitsValue (List.replicate count '0') = 0 := by
  rw [digitsValue_eq, Nat.ofDigitChars_replicate_zero, Nat.mul_zero]

/-- A digit is less than ten. -/
theorem digit_lt {c : Char} (digit : c.isDigit = true) : c.toNat - '0'.toNat < 10 := by
  simp only [Char.isDigit, Bool.and_eq_true, decide_eq_true_eq, UInt32.le_iff_toNat_le] at digit
  have greatest : c.toNat ≤ 57 := digit.2
  have zero : '0'.toNat = 48 := rfl
  omega

/-- Digits spell less than the power of ten of their number. -/
theorem digitsValue_lt {digits : List Char} (all : ∀ c ∈ digits, c.isDigit = true) :
    digitsValue digits < 10 ^ digits.length := by
  induction digits using List.reverseRecOn with
  | nil => decide
  | append_singleton digits last ih =>
      have before := ih fun c member => all c (List.mem_append_left _ member)
      have single : digitsValue [last] = last.toNat - '0'.toNat := by
        simp [digitsValue]
      have small := digit_lt (all last (by simp))
      rw [digitsValue_append, single, List.length_append, List.length_singleton, Nat.pow_one,
        Nat.pow_succ]
      omega

/-- The digits of a number begin with a zero only if the number is zero. -/
theorem head?_toDigits {n : Nat} (positive : 0 < n) : (Nat.toDigits 10 n).head? ≠ some '0' := by
  intro leads
  obtain ⟨rest, split⟩ : ∃ rest, Nat.toDigits 10 n = '0' :: rest := by
    cases digits : Nat.toDigits 10 n with
    | nil => exact absurd digits Nat.toDigits_ne_nil
    | cons c rest =>
        rw [digits, List.head?_cons, Option.some.injEq] at leads
        exact ⟨rest, by rw [leads]⟩
  -- The digits behind the zero would do, so there would be fewer of them.
  have all : ∀ c ∈ rest, c.isDigit = true := fun c member =>
    isDigit_of_mem_toDigits (n := n) (split ▸ List.mem_cons_of_mem _ member)
  have value : digitsValue rest = n := by
    have whole := digitsValue_toDigits n
    rw [split, ← List.singleton_append, digitsValue_append] at whole
    have zero : digitsValue ['0'] = 0 := rfl
    rwa [zero, Nat.zero_mul, Nat.zero_add] at whole
  have small := digitsValue_lt all
  rw [value] at small
  have length := congrArg List.length split
  rw [List.length_cons] at length
  have few : 0 < rest.length := by
    rcases Nat.eq_zero_or_pos rest.length with none | some
    · rw [none, Nat.pow_zero] at small
      omega
    · exact some
  have short := (Nat.length_toDigits_le_iff (b := 10) (by decide) few).mpr small
  omega

/-- The zeros at the end of digits are cut off, and nothing else. -/
theorem exists_stripZeros (digits : List Char) :
    ∃ zeros, digits = stripZeros digits ++ List.replicate zeros '0' := by
  refine ⟨(digits.reverse.takeWhile (· == '0')).length, ?_⟩
  have zeros : digits.reverse.takeWhile (· == '0') =
      List.replicate (digits.reverse.takeWhile (· == '0')).length '0' := by
    apply List.eq_replicate_of_mem
    intro c member
    have same := List.mem_takeWhile_imp (p := fun c => c == '0') member
    exact eq_of_beq same
  have split := List.takeWhile_append_dropWhile (p := (· == '0')) (l := digits.reverse)
  rw [zeros] at split
  have back := congrArg List.reverse split
  rw [List.reverse_append, List.reverse_reverse, List.reverse_replicate] at back
  exact back.symm

end Double

end SchemaBootstrap
