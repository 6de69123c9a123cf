import Mathlib.Algebra.Order.Field.Basic
import SchemaBootstrap.Json.Number
import SchemaBootstrap.Proofs.Decimal.Rounding

/-! # Decimals that are not too great to be read

A decimal is read in two steps, its digits first and then a power of ten, and both of them are
rounded. A power that is not positive never leads to an infinite number
(`Double.scaled?_isSome_of_nonpos`). A positive one does not either for the up to seventeen digits
of a number below the greatest double (`Double.scaled?_isSome`); how much the powers of ten grow
by rounding is read off their table (`Double.tens_bounds`).
-/

namespace SchemaBootstrap

namespace Double

/-- A scaled quotient below the ceiling is finite. -/
theorem ofScaledQuotient_finite {numerator denominator : Nat} {power : Int}
    (positive : 0 < denominator) (below : (numerator : ℚ) / denominator * 2 ^ power < ceiling) :
    (ofScaledQuotient numerator denominator power).exponentField < 2047 := by
  unfold ofScaledQuotient
  rcases Nat.eq_zero_or_pos numerator with rfl | some
  · rw [Nat.zero_mul, ofQuotient, if_pos rfl, ofQuotient, if_pos rfl, ite_self]
    decide
  split
  · next whole =>
      obtain ⟨places, rfl⟩ := Int.eq_ofNat_of_zero_le whole
      refine (ofQuotient_spec (Nat.mul_pos some (twoTo_pos _)) positive false ?_).1
      rw [Int.toNat_natCast, Nat.cast_mul, twoTo_cast, mul_div_right_comm]
      exact below
  · next fractional =>
      obtain ⟨places, rfl⟩ : ∃ places : Nat, power = -places := ⟨(-power).toNat, by omega⟩
      refine (ofQuotient_spec some (Nat.mul_pos positive (twoTo_pos _)) false ?_).1
      rw [neg_neg, Int.toNat_natCast, Nat.cast_mul, twoTo_cast, ← div_div, div_eq_mul_inv _ (2 ^ _),
        ← zpow_neg]
      exact below

/-- The double nearest to a power of ten. -/
def tens (power : Nat) : Double :=
  ofDecimal false (tenTo power) 0

/-- The greatest number of up to seventeen digits that counts with a power of ten in the decimal
of a number below the greatest double. -/
def mostDigits (power : Nat) : Nat :=
  min (10 ^ 17 - 1) (highest / tenTo power)

/-- The powers of ten are rounded so little that no decimal reaches the ceiling by it. -/
theorem tens_bounds : ∀ power < 309,
    2 ^ 52 ≤ (tens power).significand ∧ -52 ≤ (tens power).scale ∧
      roundedUp (mostDigits power) * (tens power).significand * twoTo (tens power).scale.toNat <
        ceiling * twoTo (-(tens power).scale).toNat := by
  decide +kernel

variable {power : Nat}

/-- A power of ten is at least one, also when it is rounded. -/
theorem one_le_magnitude_tens (small : power < 309) : 1 ≤ (tens power).magnitude := by
  obtain ⟨full, least, -⟩ := tens_bounds power small
  have full : (2 : ℚ) ^ 52 ≤ (tens power).significand := by exact_mod_cast full
  have unit : (2 : ℚ) ^ (-52 : Int) ≤ 2 ^ (tens power).scale :=
    zpow_le_zpow_right₀ one_le_two least
  calc (1 : ℚ) = 2 ^ 52 * 2 ^ (-52 : Int) := by norm_num
    _ ≤ (tens power).magnitude :=
        mul_le_mul full unit (zpow_nonneg zero_le_two _) (Nat.cast_nonneg _)

/-- As many digits as a power of ten permits stay below the ceiling. -/
theorem roundedUp_mul_tens_lt (small : power < 309) :
    (roundedUp (mostDigits power) : ℚ) * (tens power).magnitude < ceiling := by
  obtain ⟨-, -, less⟩ := tens_bounds power small
  have less : ((roundedUp (mostDigits power) * (tens power).significand *
      twoTo (tens power).scale.toNat : Nat) : ℚ) <
      (ceiling * twoTo (-(tens power).scale).toNat : Nat) := by
    exact_mod_cast less
  rw [magnitude]
  generalize (tens power).scale = scale at *
  push_cast [twoTo_cast] at less
  rw [← mul_assoc]
  rcases le_total 0 scale with whole | fractional
  · rw [Int.toNat_of_nonneg whole, Int.toNat_of_nonpos (by omega), Nat.cast_zero, zpow_zero,
      mul_one] at less
    exact less
  · rw [Int.toNat_of_nonpos fractional, Int.toNat_of_nonneg (by omega), zpow_neg, Nat.cast_zero,
      zpow_zero, mul_one] at less
    have unit : (0 : ℚ) < 2 ^ scale := zpow_pos two_pos _
    rwa [← lt_div_iff₀ unit, div_eq_mul_inv]

variable {x : Double}

/-- A negative power of ten is divided by. -/
theorem timesTenTo_of_neg {power : Int} (neg : power < 0) : x.timesTenTo power =
    ofScaledQuotient x.significand (tens power.natAbs).significand
      (x.scale - (tens power.natAbs).scale) := by
  unfold timesTenTo
  rw [if_neg (by omega)]
  rfl

/-- A power of ten is multiplied with. -/
theorem timesTenTo_natCast (power : Nat) : x.timesTenTo power =
    ofScaledQuotient (x.significand * (tens power).significand) 1
      (x.scale + (tens power).scale) := by
  unfold timesTenTo
  rw [Int.natAbs_natCast, if_pos (Int.natCast_nonneg power)]
  rfl

/-- A product with a power of ten is finite if it is below the ceiling before it is rounded. -/
theorem timesTenTo_finite_of_lt (power : Nat)
    (below : x.magnitude * (tens power).magnitude < ceiling) :
    (x.timesTenTo power).exponentField < 2047 := by
  rw [timesTenTo_natCast]
  apply ofScaledQuotient_finite Nat.one_pos
  rw [zpow_add₀ two_ne_zero, Nat.cast_mul, Nat.cast_one, div_one, mul_mul_mul_comm]
  exact below

theorem magnitude_tens_zero : (tens 0).magnitude = 1 := by
  have fields : (tens 0).significand = 2 ^ 52 ∧ (tens 0).scale = -52 := by decide
  rw [magnitude, fields.1, fields.2]
  norm_num

/-- Dividing by a power of ten leaves a number finite. -/
theorem timesTenTo_finite_of_nonpos (finite : x.exponentField < 2047) {power : Int}
    (nonpos : power ≤ 0) (small : -309 < power) : (x.timesTenTo power).exponentField < 2047 := by
  have below := magnitude_lt_ceiling finite
  rcases eq_or_lt_of_le nonpos with rfl | neg
  · apply timesTenTo_finite_of_lt 0
    rwa [magnitude_tens_zero, mul_one]
  · -- What is divided by is at least one, so the quotient is no greater than the number.
    have least := one_le_magnitude_tens (show power.natAbs < 309 by omega)
    have full := (tens_bounds power.natAbs (by omega)).1
    rw [timesTenTo_of_neg neg]
    apply ofScaledQuotient_finite (by omega)
    have quotient : (x.significand : ℚ) / (tens power.natAbs).significand *
        2 ^ (x.scale - (tens power.natAbs).scale) =
          x.magnitude / (tens power.natAbs).magnitude := by
      rw [zpow_sub₀ two_ne_zero, div_mul_div_comm]
      rfl
    rw [quotient]
    exact (div_le_self x.magnitude_nonneg least).trans_lt below

/-- The digits of a number below the greatest double are finite with their power of ten. -/
theorem timesTenTo_finite {digits power : Nat} (few : digits < 10 ^ 17)
    (le : digits * tenTo power ≤ highest) (small : power < 309) :
    ((ofDecimal false digits 0).timesTenTo power).exponentField < 2047 := by
  have most : digits ≤ mostDigits power := by
    have quotient := (Nat.le_div_iff_mul_le (tenTo_pos power)).mpr le
    unfold mostDigits
    omega
  have rounded : (roundedUp digits : ℚ) ≤ roundedUp (mostDigits power) := by
    exact_mod_cast roundedUp_le most
  have grown := (magnitude_ofDecimal_le (show digits < 2 ^ 57 by omega)).2
  apply timesTenTo_finite_of_lt
  calc (ofDecimal false digits 0).magnitude * (tens power).magnitude
      ≤ roundedUp (mostDigits power) * (tens power).magnitude :=
        mul_le_mul_of_nonneg_right (grown.trans rounded) (tens power).magnitude_nonneg
    _ < ceiling := roundedUp_mul_tens_lt small

/-- A number with a smaller exponent is not infinite. -/
theorem isInfinite_of_finite (finite : x.exponentField < 2047) : x.isInfinite = false := by
  unfold isInfinite
  have other : x.exponentField ≠ 2047 := by omega
  rw [beq_eq_false_iff_ne.mpr other, Bool.false_and]

/-- A power of ten that is not positive is reached in whatever number of steps. -/
theorem scaled?_isSome_of_nonpos {steps : Nat} (finite : x.exponentField < 2047) {power : Int}
    (nonpos : power ≤ 0) : (scaled? steps x power).isSome := by
  have tens : (greatestTens : Int) = 308 := rfl
  induction steps generalizing x power with
  | zero => rfl
  | succ steps ih =>
      unfold scaled?
      split
      · rfl
      split
      · exact ih (timesTenTo_finite_of_nonpos finite (by omega) (by omega)) (by omega)
      split
      · omega
      · have below := timesTenTo_finite_of_nonpos finite nonpos (by omega)
        simp [isInfinite_of_finite below]

/-- **The decimal of a number below the greatest double is read.** -/
theorem scaled?_isSome {steps digits : Nat} {power : Int} (few : digits < 10 ^ 17)
    (le : 0 < power → digits * tenTo power.toNat ≤ highest) :
    (scaled? steps (ofDecimal false digits 0) power).isSome := by
  have finite := (magnitude_ofDecimal_le (show digits < 2 ^ 57 by omega)).1
  rcases le_or_gt power 0 with nonpos | positive
  · exact scaled?_isSome_of_nonpos finite nonpos
  obtain ⟨places, rfl⟩ := Int.eq_ofNat_of_zero_le positive.le
  have le := le positive
  rw [Int.toNat_natCast] at le
  have tens : (greatestTens : Int) = 308 := rfl
  cases steps with
  | zero => rfl
  | succ steps =>
      unfold scaled?
      split
      · rfl
      next nonzero =>
      have some : 0 < digits := Nat.pos_of_ne_zero fun zero => nonzero (by subst zero; decide)
      -- A greater power would lift any digits above the highest decimal; this one is in the table.
      have small : places < 309 := by
        by_contra greater
        have power := tenTo_le (show 309 ≤ places by omega)
        have beyond : highest < tenTo 309 := by decide +kernel
        have grown := Nat.le_mul_of_pos_left (tenTo places) some
        omega
      rw [if_neg (by omega), if_neg (by omega)]
      simp [isInfinite_of_finite (timesTenTo_finite few le small)]

end Double

end SchemaBootstrap
