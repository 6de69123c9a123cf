import Mathlib.Algebra.Order.Field.Power
import Mathlib.Algebra.Order.Field.Rat
import Mathlib.Tactic.FieldSimp
import Mathlib.Tactic.IntervalCases
import SchemaBootstrap.Proofs.Decimal.ShortestDigits

/-! # Rounding to doubles

A quotient of natural numbers is rounded on the grid of its binade: it has fifty-three binary
digits there, unless it is too small for that (`Double.binade_spec`). The result is finite if the
quotient is below the ceiling, and it is less than a unit of the grid above the quotient
(`Double.ofQuotient_spec`). So natural numbers of up to seventeen decimal digits grow by a known
amount when they are rounded (`Double.magnitude_ofDecimal_le`).
-/

namespace SchemaBootstrap

namespace Double

/-- The numbers that are rounded to finite ones end here: half way from the greatest one to where
the next one would be. -/
def ceiling : Nat :=
  (2 ^ 54 - 1) * twoTo 970

/-- The size of a finite number. -/
def magnitude (x : Double) : ℚ :=
  x.significand * 2 ^ x.scale

theorem magnitude_nonneg (x : Double) : 0 ≤ x.magnitude :=
  mul_nonneg (Nat.cast_nonneg _) (zpow_nonneg zero_le_two _)

/-- The significand of a number is zero for the two zeros only. -/
theorem significand_eq_zero_iff (x : Double) : x.significand = 0 ↔ x.isZero = true := by
  rw [significand, isZero, Bool.and_eq_true, beq_iff_eq, beq_iff_eq]
  split
  · next small => rw [and_iff_right small]
  · next normal =>
      have leading : 0 < twoTo 52 := by decide
      exact iff_of_false (by omega) fun zero => normal zero.1

/-- The two zeros have no size, and all others have some. -/
theorem magnitude_pos_iff (x : Double) : 0 < x.magnitude ↔ x.isZero = false := by
  rw [magnitude, mul_pos_iff_of_pos_right (zpow_pos two_pos _), Nat.cast_pos, Nat.pos_iff_ne_zero,
    Ne, significand_eq_zero_iff, Bool.not_eq_true]

theorem twoTo_cast (exponent : Nat) : (twoTo exponent : ℚ) = 2 ^ (exponent : Int) := by
  rw [twoTo, zpow_natCast]
  exact Nat.cast_pow 2 exponent

theorem ceiling_cast : (ceiling : ℚ) = (2 ^ 54 - 1) * 2 ^ (970 : Int) := by
  rw [ceiling, Nat.cast_mul, twoTo_cast]
  norm_num

/-- No finite number reaches the ceiling. -/
theorem magnitude_lt_ceiling {x : Double} (finite : x.exponentField < 2047) :
    x.magnitude < ceiling := by
  have greatest : x.scale ≤ 970 + 1 := by unfold scale; split <;> omega
  have coarse : (2 : ℚ) ^ x.scale ≤ 2 ^ (970 : Int) * 2 := by
    rw [← zpow_add_one₀ two_ne_zero]
    exact zpow_le_zpow_right₀ one_le_two greatest
  have small : (x.significand : ℚ) + 1 ≤ 2 ^ 53 := by
    exact_mod_cast x.significand_lt
  have top : (0 : ℚ) < 2 ^ (970 : Int) := zpow_pos two_pos _
  have unit : (0 : ℚ) < 2 ^ x.scale := zpow_pos two_pos _
  rw [ceiling_cast, magnitude]
  generalize (2 : ℚ) ^ (970 : Int) = top at *
  nlinarith

section Fields

variable (negative : Bool) {exponent fraction : Nat}

/-- The bits of a number are its fields side by side. -/
theorem toNat_ofFields (small : exponent < 2048) (short : fraction < twoTo 52) :
    (ofFields negative exponent fraction).bits.toNat =
      (if negative then twoTo 63 else 0) + exponent * twoTo 52 + fraction := by
  have leading : twoTo 52 = 2 ^ 52 := rfl
  have sign : twoTo 63 = 2 ^ 63 := rfl
  rw [ofFields]
  dsimp only
  rw [UInt64.toNat_ofNat']
  apply Nat.mod_eq_of_lt
  rw [leading] at short
  rw [leading, sign]
  split <;> omega

/-- The exponent field is read back. -/
theorem exponentField_ofFields (small : exponent < 2048) (short : fraction < twoTo 52) :
    (ofFields negative exponent fraction).exponentField = exponent := by
  have leading : twoTo 52 = 2 ^ 52 := rfl
  have width : twoTo 11 = 2 ^ 11 := rfl
  have sign : twoTo 63 = 2 ^ 63 := rfl
  rw [exponentField, toNat_ofFields negative small short]
  rw [leading] at short
  rw [leading, sign, width]
  split <;> omega

theorem fractionField_ofFields (small : exponent < 2048) (short : fraction < twoTo 52) :
    (ofFields negative exponent fraction).fractionField = fraction := by
  have leading : twoTo 52 = 2 ^ 52 := rfl
  have sign : twoTo 63 = 2 ^ 63 := rfl
  rw [fractionField, toNat_ofFields negative small short]
  rw [leading] at short
  rw [leading, sign]
  split <;> omega

end Fields

/-- A significand of fifty-three digits, or of fewer on the finest grid, is encoded as it is. -/
theorem encode_spec {significand : Nat} {power : Int} (negative : Bool)
    (small : significand < 2 ^ 53) (least : -1074 ≤ power) (greatest : power ≤ 971)
    (full : power = -1074 ∨ 2 ^ 52 ≤ significand) :
    (encode negative significand power).exponentField < 2047 ∧
      (encode negative significand power).magnitude = significand * 2 ^ power := by
  have leading : twoTo 52 = 2 ^ 52 := rfl
  rw [encode, if_neg (by omega)]
  split
  · next short =>
      have finest : power = -1074 := by omega
      have exponent := exponentField_ofFields negative (Nat.zero_lt_succ 2047) short
      have fraction := fractionField_ofFields negative (Nat.zero_lt_succ 2047) short
      refine ⟨by omega, ?_⟩
      rw [magnitude, Double.significand, scale, if_pos exponent, if_pos exponent, fraction, finest]
  · next long =>
      have within : (power + 1075).toNat < 2048 := by omega
      have short : significand - twoTo 52 < twoTo 52 := by omega
      have exponent := exponentField_ofFields negative within short
      have fraction := fractionField_ofFields negative within short
      have normal :
          (ofFields negative (power + 1075).toNat (significand - twoTo 52)).exponentField ≠ 0 := by
        omega
      have whole : significand - twoTo 52 + twoTo 52 = significand := Nat.sub_add_cancel (by omega)
      have shift : ((power + 1075).toNat : Int) - 1075 = power := by omega
      refine ⟨by omega, ?_⟩
      rw [magnitude, Double.significand, scale, if_neg normal, if_neg normal, fraction, exponent,
        whole, shift]

/-- A rounded quotient is less than one above the quotient, and no more than a half. -/
theorem roundQuotient_bounds (numerator : Nat) {denominator : Nat} (positive : 0 < denominator) :
    roundQuotient numerator denominator * denominator < numerator + denominator ∧
      2 * (roundQuotient numerator denominator * denominator) ≤ 2 * numerator + denominator := by
  have split := Nat.div_add_mod numerator denominator
  have rest := Nat.mod_lt numerator positive
  rw [Nat.mul_comm] at split
  unfold roundQuotient
  dsimp only
  split_ifs
  all_goals first | omega | (rw [Nat.succ_mul]; omega)

/-- A whole number that a quotient reaches is reached by the rounded one. -/
theorem le_roundQuotient (number numerator : Nat) {denominator : Nat}
    (positive : 0 < denominator) (le : number * denominator ≤ numerator) :
    number ≤ roundQuotient numerator denominator := by
  have quotient := (Nat.le_div_iff_mul_le positive).mpr le
  unfold roundQuotient
  dsimp only
  split_ifs <;> omega

/-- A quotient in the unit of a power of two is that quotient divided by the power. -/
theorem rescaled_spec (numerator : Nat) {denominator : Nat} (positive : 0 < denominator)
    (power : Int) :
    0 < (rescaled numerator denominator power).2 ∧
      ((rescaled numerator denominator power).1 : ℚ) =
        numerator / denominator / 2 ^ power * (rescaled numerator denominator power).2 := by
  have nonzero : (denominator : ℚ) ≠ 0 := by exact_mod_cast positive.ne'
  have unit : (2 : ℚ) ^ power ≠ 0 := zpow_ne_zero _ two_ne_zero
  unfold rescaled
  split
  · next whole =>
      refine ⟨Nat.mul_pos positive (twoTo_pos _), ?_⟩
      have exponent : ((power.toNat : Nat) : Int) = power := Int.toNat_of_nonneg whole
      rw [Nat.cast_mul, twoTo_cast, exponent]
      field_simp
  · next fractional =>
      refine ⟨positive, ?_⟩
      have exponent : (((-power).toNat : Nat) : Int) = -power := Int.toNat_of_nonneg (by omega)
      rw [Nat.cast_mul, twoTo_cast, exponent, zpow_neg]
      field_simp

/-- A quotient rounded in the unit of a power of two: less than a unit above it, no more than half
a unit, and not below a multiple of the unit that the quotient reaches. -/
theorem roundedAt_bounds (numerator : Nat) {denominator : Nat} (positive : 0 < denominator)
    (power : Int) :
    (roundedAt numerator denominator power : ℚ) * 2 ^ power <
        numerator / denominator + 2 ^ power ∧
      2 * (roundedAt numerator denominator power * 2 ^ power) ≤
        2 * ((numerator : ℚ) / denominator) + 2 ^ power ∧
      ∀ number : Nat, number * 2 ^ power ≤ (numerator : ℚ) / denominator →
        number ≤ roundedAt numerator denominator power := by
  obtain ⟨bottom_pos, quotient⟩ := rescaled_spec numerator positive power
  obtain ⟨near, nearest⟩ :=
    roundQuotient_bounds (rescaled numerator denominator power).1 bottom_pos
  have multiple (number : Nat) := le_roundQuotient number
    (rescaled numerator denominator power).1 bottom_pos
  rw [← roundedAt] at near nearest multiple
  generalize roundedAt numerator denominator power = rounded at *
  rw [← @Nat.cast_lt ℚ] at near
  rw [← @Nat.cast_le ℚ] at nearest
  push_cast at near nearest
  rw [quotient] at near nearest
  have unit : (0 : ℚ) < 2 ^ power := zpow_pos two_pos _
  have divisor : (0 : ℚ) < (rescaled numerator denominator power).2 := by exact_mod_cast bottom_pos
  -- What holds of the quotient in the unit holds of the quotient when both are multiplied by it.
  refine ⟨?_, ?_, fun number reached => ?_⟩
  · have less : (rounded : ℚ) < numerator / denominator / 2 ^ power + 1 := by nlinarith
    rwa [← mul_lt_mul_iff_of_pos_right unit, add_mul, div_mul_cancel₀ _ unit.ne', one_mul] at less
  · have less : 2 * (rounded : ℚ) ≤ 2 * (numerator / denominator / 2 ^ power) + 1 := by nlinarith
    rwa [← mul_le_mul_iff_of_pos_right unit, add_mul, mul_assoc, mul_assoc,
      div_mul_cancel₀ _ unit.ne', one_mul] at less
  · apply multiple
    rw [← @Nat.cast_le ℚ, Nat.cast_mul, quotient]
    exact mul_le_mul_of_nonneg_right ((le_div_iff₀ unit).mpr reached) divisor.le

/-- A positive number lies between two powers of two. -/
theorem log2_bounds {number : Nat} (positive : 0 < number) :
    (2 : ℚ) ^ (number.log2 : Int) ≤ number ∧ (number : ℚ) < 2 ^ (number.log2 : Int) * 2 := by
  have lower := Nat.log2_self_le positive.ne'
  have upper := Nat.lt_log2_self (n := number)
  rw [Nat.pow_succ] at upper
  constructor
  · rw [zpow_natCast]
    exact_mod_cast lower
  · rw [zpow_natCast]
    exact_mod_cast upper

section Binade

variable {numerator denominator : Nat}

/-- The sizes of numerator and denominator tell the size of a quotient up to a factor of four. -/
theorem quotient_bounds (some : 0 < numerator) (positive : 0 < denominator) {first : Int}
    (sizes : first = (numerator.log2 : Int) - denominator.log2 - 52) :
    2 ^ 51 * 2 ^ first < (numerator : ℚ) / denominator ∧
      (numerator : ℚ) / denominator < 2 ^ 53 * 2 ^ first := by
  obtain ⟨top_ge, top_lt⟩ := log2_bounds some
  obtain ⟨bottom_ge, bottom_lt⟩ := log2_bounds positive
  have divisor : (0 : ℚ) < denominator := by exact_mod_cast positive
  have unit : (0 : ℚ) < 2 ^ first := zpow_pos two_pos _
  have split : (2 : ℚ) ^ (numerator.log2 : Int) =
      2 ^ 52 * 2 ^ first * 2 ^ (denominator.log2 : Int) := by
    have same : (numerator.log2 : Int) = (52 : Nat) + first + denominator.log2 := by omega
    rw [same, zpow_add₀ two_ne_zero, zpow_add₀ two_ne_zero, zpow_natCast]
  constructor
  · rw [lt_div_iff₀ divisor]
    have scaled := mul_lt_mul_of_pos_left bottom_lt (mul_pos (by norm_num : (0 : ℚ) < 2 ^ 51) unit)
    linarith
  · rw [div_lt_iff₀ divisor]
    have scaled := mul_le_mul_of_nonneg_left bottom_ge
      (mul_pos (by norm_num : (0 : ℚ) < 2 ^ 53) unit).le
    linarith

/-- A quotient has fifty-three binary digits before the point in the unit of its binade. -/
theorem binade_spec (some : 0 < numerator) (positive : 0 < denominator) :
    -1074 ≤ binade numerator denominator ∧
      (numerator : ℚ) / denominator < 2 ^ 53 * 2 ^ binade numerator denominator ∧
      (binade numerator denominator = -1074 ∨
        2 ^ 52 * 2 ^ binade numerator denominator ≤ (numerator : ℚ) / denominator) := by
  obtain ⟨first, sizes⟩ : ∃ first : Int,
      first = (numerator.log2 : Int) - denominator.log2 - 52 := ⟨_, rfl⟩
  obtain ⟨lower, upper⟩ := quotient_bounds some positive sizes
  obtain ⟨bottom, quotient⟩ := rescaled_spec numerator positive first
  have unit : (0 : ℚ) < 2 ^ first := zpow_pos two_pos _
  have half : (2 : ℚ) ^ first = 2 ^ (first - 1) * 2 := by
    rw [← zpow_add_one₀ two_ne_zero, sub_add_cancel]
  have short : (rescaled numerator denominator first).1 <
      (rescaled numerator denominator first).2 * twoTo 52 ↔
      (numerator : ℚ) / denominator < 2 ^ 52 * 2 ^ first := by
    have divisor : (0 : ℚ) < (rescaled numerator denominator first).2 := by exact_mod_cast bottom
    have cast : (((rescaled numerator denominator first).2 * twoTo 52 : Nat) : ℚ) =
        2 ^ 52 * (rescaled numerator denominator first).2 := by
      rw [Nat.cast_mul, mul_comm]
      rfl
    rw [← @Nat.cast_lt ℚ, quotient, cast, mul_lt_mul_iff_of_pos_right divisor,
      div_lt_iff₀ unit]
  -- The first guess is the binade, or one above it where the quotient falls short there.
  obtain ⟨chosen, same, above, below⟩ : ∃ chosen : Int,
      binade numerator denominator = max chosen (-1074) ∧
      (numerator : ℚ) / denominator < 2 ^ 53 * 2 ^ chosen ∧
      2 ^ 52 * 2 ^ chosen ≤ (numerator : ℚ) / denominator := by
    refine ⟨_, by rw [binade, ← sizes], ?_⟩
    split
    · next less =>
        rw [short, half] at less
        rw [half] at lower
        exact ⟨by linarith, by linarith⟩
    · next more =>
        rw [short, not_lt] at more
        exact ⟨upper, more⟩
  have coarser : (2 : ℚ) ^ chosen ≤ 2 ^ max chosen (-1074) :=
    zpow_le_zpow_right₀ one_le_two (le_max_left _ _)
  rw [same]
  refine ⟨le_max_right _ _, by linarith, ?_⟩
  rcases le_total chosen (-1074) with tiny | normal
  · exact .inl (max_eq_right tiny)
  · exact .inr (by rwa [max_eq_left normal])

/-- A quotient below the ceiling is not beyond the last binade. -/
theorem binade_le (some : 0 < numerator) (positive : 0 < denominator)
    (below : (numerator : ℚ) / denominator < ceiling) : binade numerator denominator ≤ 971 := by
  obtain ⟨-, -, lower⟩ := binade_spec some positive
  rw [ceiling_cast] at below
  by_contra greater
  have coarse : (2 : ℚ) ^ (970 + 2 : Int) ≤ 2 ^ binade numerator denominator :=
    zpow_le_zpow_right₀ one_le_two (by omega)
  have four : (2 : ℚ) ^ (2 : Int) = 4 := by norm_num
  have edge : (0 : ℚ) < 2 ^ (970 : Int) := zpow_pos two_pos _
  rw [zpow_add₀ two_ne_zero, four] at coarse
  generalize (2 : ℚ) ^ (970 : Int) = top at below edge coarse
  rcases lower with finest | reached
  · omega
  · linarith

/-- In the unit of its binade a quotient is rounded to fifty-three binary digits, or carried to
the first number that has one more. -/
theorem roundedAt_binade (some : 0 < numerator) (positive : 0 < denominator) :
    roundedAt numerator denominator (binade numerator denominator) ≤ 2 ^ 53 ∧
      (binade numerator denominator = -1074 ∨
        2 ^ 52 ≤ roundedAt numerator denominator (binade numerator denominator)) := by
  obtain ⟨-, upper, lower⟩ := binade_spec some positive
  generalize binade numerator denominator = power at *
  obtain ⟨near, -, multiple⟩ := roundedAt_bounds numerator positive power
  have unit : (0 : ℚ) < 2 ^ power := zpow_pos two_pos _
  constructor
  · have less : (roundedAt numerator denominator power : ℚ) * 2 ^ power <
        ((2 ^ 53 + 1 : Nat) : ℚ) * 2 ^ power := by
      push_cast
      linarith
    have less := lt_of_mul_lt_mul_right less unit.le
    rw [Nat.cast_lt] at less
    omega
  · refine lower.imp_right fun reached => multiple _ ?_
    exact_mod_cast reached

/-- **A quotient below the ceiling is rounded to a finite number**, which is less than a unit of
its binade above the quotient. -/
theorem ofQuotient_spec (some : 0 < numerator) (positive : 0 < denominator) (negative : Bool)
    (below : (numerator : ℚ) / denominator < ceiling) :
    (ofQuotient negative numerator denominator).exponentField < 2047 ∧
      ∃ rounded : Nat,
        (ofQuotient negative numerator denominator).magnitude =
          rounded * 2 ^ binade numerator denominator ∧
        rounded * 2 ^ binade numerator denominator <
          (numerator : ℚ) / denominator + 2 ^ binade numerator denominator := by
  have carry : twoTo 53 = 2 ^ 53 := rfl
  have leading : twoTo 52 = 2 ^ 52 := rfl
  obtain ⟨least, -, -⟩ := binade_spec some positive
  have greatest := binade_le some positive below
  obtain ⟨few, full⟩ := roundedAt_binade some positive
  rw [ofQuotient, if_neg some.ne', encodeRounded]
  generalize binade numerator denominator = power at *
  obtain ⟨near, nearest, -⟩ := roundedAt_bounds numerator positive power
  generalize roundedAt numerator denominator power = rounded at *
  rw [carry, leading]
  split
  · next carried =>
      -- In the last binade nothing is carried: half a unit below the carry is the ceiling.
      have next : power ≤ 970 := by
        by_contra last
        have top : power = 970 + 1 := by omega
        rw [carried, top, zpow_add_one₀ two_ne_zero] at nearest
        rw [ceiling_cast] at below
        generalize (2 : ℚ) ^ (970 : Int) = edge at below nearest
        push_cast at nearest
        linarith
      obtain ⟨finite, size⟩ := encode_spec negative (show 2 ^ 52 < 2 ^ 53 by decide)
        (show -1074 ≤ power + 1 by omega) (show power + 1 ≤ 971 by omega) (.inr le_rfl)
      refine ⟨finite, 2 ^ 53, ?_, carried ▸ near⟩
      rw [size, zpow_add_one₀ two_ne_zero]
      push_cast
      ring
  · next short =>
      have small : rounded < 2 ^ 53 := lt_of_le_of_ne few short
      obtain ⟨finite, size⟩ := encode_spec negative small least greatest full
      exact ⟨finite, rounded, size, near⟩

end Binade

/-- What rounding makes of a natural number at the most. -/
def roundedUp (number : Nat) : Nat :=
  if number < 2 ^ 53 then number
  else if number < 2 ^ 54 then number + number % 2
  else number + 15

/-- Greater numbers grow to greater ones. -/
theorem roundedUp_le {number greater : Nat} (le : number ≤ greater) :
    roundedUp number ≤ roundedUp greater := by
  unfold roundedUp
  split_ifs <;> omega

/-- A multiple of a power of two that is less than a unit above a natural number of at least
fifty-three binary digits in that unit. -/
theorem le_roundedUp {number rounded : Nat} {power : Int} (few : number < 2 ^ 57)
    (full : 2 ^ 52 * (2 : ℚ) ^ power ≤ number)
    (near : (rounded : ℚ) * 2 ^ power < number + 2 ^ power) :
    (rounded : ℚ) * 2 ^ power ≤ roundedUp number := by
  rcases le_or_gt power 0 with fine | coarse
  · -- On a grid that has the natural numbers the number is not passed.
    obtain ⟨places, rfl⟩ : ∃ places : Nat, power = -places := ⟨(-power).toNat, by omega⟩
    have unit : (0 : ℚ) < 2 ^ places := by positivity
    rw [zpow_neg, zpow_natCast] at near ⊢
    have below : (rounded : ℚ) < ((number * 2 ^ places + 1 : Nat) : ℚ) := by
      push_cast
      field_simp at near
      linarith
    have below : (rounded : ℚ) ≤ ((number * 2 ^ places : Nat) : ℚ) := by
      rw [Nat.cast_le]
      rw [Nat.cast_lt] at below
      omega
    have same : number ≤ roundedUp number := by
      unfold roundedUp
      split_ifs <;> omega
    have same : (number : ℚ) ≤ roundedUp number := by exact_mod_cast same
    push_cast at below
    rw [mul_inv_le_iff₀ unit]
    nlinarith
  · -- At most four binary digits are rounded off, since the number has no more.
    obtain ⟨places, rfl⟩ : ∃ places : Nat, power = places := ⟨power.toNat, by omega⟩
    rw [zpow_natCast] at full near ⊢
    have full : 2 ^ 52 * 2 ^ places ≤ number := by exact_mod_cast full
    have near : rounded * 2 ^ places < number + 2 ^ places := by exact_mod_cast near
    have small : places ≤ 4 := by
      by_contra more
      have power : 2 ^ 5 ≤ 2 ^ places := Nat.pow_le_pow_right (by decide) (by omega)
      omega
    have bound : rounded * 2 ^ places ≤ roundedUp number := by
      unfold roundedUp
      interval_cases places <;> split_ifs <;> omega
    exact_mod_cast bound

/-- **A natural number of up to seventeen decimal digits grows by a known amount** when it is
rounded. -/
theorem magnitude_ofDecimal_le {number : Nat} (few : number < 2 ^ 57) :
    (ofDecimal false number 0).exponentField < 2047 ∧
      (ofDecimal false number 0).magnitude ≤ roundedUp number := by
  rcases Nat.eq_zero_or_pos number with rfl | some
  · have zero : (ofDecimal false 0 0).significand = 0 := by decide
    refine ⟨by decide, ?_⟩
    rw [magnitude, zero, Nat.cast_zero, zero_mul]
    exact Nat.cast_nonneg _
  have same : ofDecimal false number 0 = ofQuotient false number 1 := by
    rw [ofDecimal, if_neg some.ne', if_neg (by decide), if_neg (by decide), if_pos (by decide)]
    exact congrArg (ofQuotient false · 1) (Nat.mul_one number)
  have one : (number : ℚ) / (1 : Nat) = number := by rw [Nat.cast_one, div_one]
  have below : (number : ℚ) / (1 : Nat) < ceiling := by
    have less : number < ceiling := lt_trans few (by decide +kernel)
    rw [one]
    exact_mod_cast less
  obtain ⟨finite, rounded, size, near⟩ := ofQuotient_spec some Nat.one_pos false below
  obtain ⟨least, -, lower⟩ := binade_spec some Nat.one_pos
  rw [same]
  refine ⟨finite, ?_⟩
  rw [size]
  rw [one] at lower near
  refine le_roundedUp few (lower.elim (fun finest => ?_) id) near
  -- In the finest unit every positive number has more than enough digits.
  have tiny : (2 : ℚ) ^ binade number 1 ≤ 2 ^ (-52 : Int) :=
    zpow_le_zpow_right₀ one_le_two (by omega)
  have least : (1 : ℚ) ≤ number := by exact_mod_cast some
  calc (2 : ℚ) ^ 52 * 2 ^ binade number 1 ≤ 2 ^ 52 * 2 ^ (-52 : Int) :=
        mul_le_mul_of_nonneg_left tiny (by norm_num)
    _ = 1 := by norm_num
    _ ≤ number := least

end Double

end SchemaBootstrap
