import Mathlib.Tactic.Linarith
import Mathlib.Tactic.Ring
import SchemaBootstrap.Proofs.Decimal.DigitTexts

/-! # The shortest decimal is found

Seventeen digits are enough to tell a double from all others: on the grid of that many digits the
nearest neighbour of a number lies in its rounding interval, since ten to the power of sixteen is
more than two to the power of fifty-three (`Double.Interval.onGrid_isSome`). So the search for the
shortest decimal ends with one that lies in the interval, which for a number below the greatest one
ends half way to the greatest one (`Double.shortest_proper`).
-/

namespace SchemaBootstrap

theorem twoTo_succ (exponent : Nat) : twoTo (exponent + 1) = twoTo exponent * 2 :=
  Nat.pow_succ 2 exponent

theorem twoTo_le {exponent greater : Nat} (le : exponent ≤ greater) :
    twoTo exponent ≤ twoTo greater :=
  Nat.pow_le_pow_right (by decide) le

theorem twoTo_pos (exponent : Nat) : 0 < twoTo exponent :=
  Nat.pow_pos (by decide)

theorem tenTo_pos (exponent : Nat) : 0 < tenTo exponent :=
  Nat.pow_pos (by decide)

theorem tenTo_add (exponent other : Nat) :
    tenTo (exponent + other) = tenTo exponent * tenTo other :=
  Nat.pow_add 10 exponent other

theorem tenTo_le {exponent greater : Nat} (le : exponent ≤ greater) :
    tenTo exponent ≤ tenTo greater :=
  Nat.pow_le_pow_right (by decide) le

/-- A power of ten in a fraction that is expanded. -/
theorem tenTo_split {exponent : Int} {less greater : Nat}
    (sum : (greater : Int) = less + exponent) :
    tenTo exponent.toNat * tenTo less = tenTo (-exponent).toNat * tenTo greater := by
  rw [← tenTo_add, ← tenTo_add]
  congr 1
  omega

namespace Double

/-- A fraction has fifty-two binary digits. -/
theorem fractionField_lt (x : Double) : x.fractionField < 2 ^ 52 :=
  Nat.mod_lt _ (by decide)

/-- A significand has fifty-three binary digits. -/
theorem significand_lt (x : Double) : x.significand < 2 ^ 53 := by
  have fraction := x.fractionField_lt
  have leading : twoTo 52 = 2 ^ 52 := rfl
  unfold significand
  split <;> omega

/-- A number that is less than the greatest finite one, whatever its sign. -/
def IsBelowGreatest (x : Double) : Prop :=
  x.exponentField * 2 ^ 52 + x.fractionField < 2047 * 2 ^ 52 - 1

/-- In the last binade the greatest significand is left out. -/
theorem greatest_binade (x : Double) (less : x.IsBelowGreatest) :
    x.scale = 971 ∧ x.significand ≤ 2 ^ 53 - 2 ∨ x.scale ≤ 970 := by
  have leading : twoTo 52 = 2 ^ 52 := rfl
  have fraction := x.fractionField_lt
  unfold IsBelowGreatest at less
  unfold scale significand
  split <;> omega

/-- The end of the rounding intervals of the numbers below the greatest one: half way from the
next to greatest one to the greatest. -/
def highest : Nat :=
  (2 ^ 54 - 3) * twoTo 970

namespace Interval

/-- What the search for a decimal needs to know of a rounding interval: it reaches down and up by
at least a part of the number that seventeen digits can tell, and lies in the range of doubles. -/
structure Fine (range : Interval) : Prop where
  below_pos : 0 < range.below
  below_le : range.below ≤ range.above
  below_lt : range.below < range.value
  denominator_pos : 0 < range.denominator
  value_le : range.value ≤ 2 ^ 53 * (2 * range.below)
  above_le : range.value + range.above ≤ highest * range.denominator
  denominator_le : range.denominator ≤ range.value * tenTo 400

end Interval

/-- A number below the greatest one, with half the distance to the next, does not pass the end of
the intervals. -/
theorem above_le_highest {x : Double} (less : x.IsBelowGreatest) (coarse : 0 ≤ x.scale - 2) :
    (4 * x.significand + 2) * twoTo (x.scale - 2).toNat ≤ highest := by
  have top : highest = (2 ^ 55 - 6) * twoTo 969 := by
    rw [highest, twoTo_succ 969]
    omega
  rw [top]
  rcases x.greatest_binade less with ⟨same, narrow⟩ | lower
  · have power : (x.scale - 2).toNat = 969 := by omega
    rw [power]
    exact Nat.mul_le_mul_right _ (by omega)
  · -- Below the last binade the unit is at most half as great.
    have small := x.significand_lt
    have power : twoTo (x.scale - 2).toNat ≤ twoTo 968 := twoTo_le (by omega)
    have next : twoTo 969 = twoTo 968 * 2 := twoTo_succ 968
    calc (4 * x.significand + 2) * twoTo (x.scale - 2).toNat
        ≤ (4 * x.significand + 2) * twoTo 968 := Nat.mul_le_mul_left _ power
      _ ≤ (2 ^ 55 - 6) * 2 * twoTo 968 := Nat.mul_le_mul_right _ (by omega)
      _ = (2 ^ 55 - 6) * twoTo 969 := by rw [next, Nat.mul_assoc, Nat.mul_comm 2]

/-- A number below the greatest one counts with a power of two or is divided by one, neither of
which is far off. -/
theorem exists_factor {x : Double} (less : x.IsBelowGreatest) :
    ∃ factor, 0 < factor ∧ 0 < x.interval.denominator ∧
      x.interval.value = 4 * x.significand * factor ∧
      x.interval.below =
        (if (x.fractionField == 0 && decide (x.exponentField > 1)) = true then 1 else 2) * factor ∧
      x.interval.above = 2 * factor ∧
      (4 * x.significand + 2) * factor ≤ highest * x.interval.denominator ∧
      x.interval.denominator ≤ factor * tenTo 400 := by
  have small := x.significand_lt
  have least : -1074 ≤ x.scale := by unfold scale; split <;> omega
  refine ⟨if x.scale - 2 ≥ 0 then twoTo (x.scale - 2).toNat else 1, ?_, ?_, rfl, rfl, rfl, ?_⟩
  · split
    · exact twoTo_pos _
    · exact Nat.one_pos
  · unfold interval
    dsimp only
    split
    · exact Nat.one_pos
    · exact twoTo_pos _
  · unfold interval
    dsimp only
    split
    · next coarse =>
        rw [Nat.mul_one]
        exact ⟨above_le_highest less coarse, Nat.mul_pos (twoTo_pos _) (tenTo_pos 400)⟩
    · have one := twoTo_pos (-(x.scale - 2)).toNat
      have power : twoTo (-(x.scale - 2)).toNat ≤ twoTo 1076 := twoTo_le (by omega)
      have far : twoTo 1076 ≤ tenTo 400 := by decide +kernel
      have wide : 2 ^ 55 ≤ highest := by decide +kernel
      refine ⟨?_, by omega⟩
      calc (4 * x.significand + 2) * 1 ≤ highest * 1 := Nat.mul_le_mul_right 1 (by omega)
        _ ≤ highest * twoTo (-(x.scale - 2)).toNat := Nat.mul_le_mul_left _ one

/-- The rounding interval of every number between zero and the greatest one is fine. -/
theorem interval_fine {x : Double} (less : x.IsBelowGreatest)
    (nonzero : 0 < x.significand) : x.interval.Fine := by
  obtain ⟨factor, factor_pos, denominator_pos, value, below, above, top, bottom⟩ :=
    exists_factor less
  have small := x.significand_lt
  refine ⟨?_, ?_, ?_, denominator_pos, ?_, ?_, ?_⟩
  · rw [below]
    split <;> omega
  · rw [below, above]
    split <;> omega
  · rw [below, value]
    split <;> nlinarith
  · rw [below, value]
    split
    · next narrow =>
        -- A number whose lower neighbour is nearer has the least significand of its scale.
        simp only [Bool.and_eq_true, beq_iff_eq, decide_eq_true_eq] at narrow
        have normal : x.exponentField ≠ 0 := by omega
        have leading : x.significand = 2 ^ 52 := by
          rw [significand, if_neg normal, narrow.1]
          rfl
        rw [leading]
        omega
    · nlinarith
  · rw [value, above]
    linarith
  · rw [value]
    calc x.interval.denominator ≤ factor * tenTo 400 := bottom
      _ ≤ 4 * x.significand * factor * tenTo 400 := by
          apply Nat.mul_le_mul_right
          nlinarith

namespace Interval

variable {range : Interval} {tie : Tie} {exponent : Int} {number : Nat}

/-- An interval in a finer unit. -/
def scaled (range : Interval) (factor : Nat) : Interval :=
  { range with
    value := range.value * factor, below := range.below * factor, above := range.above * factor }

/-- What a unit of the decimal grid is in the unit of the interval, which is refined for it. -/
def step (range : Interval) (exponent : Int) : Nat :=
  tenTo exponent.toNat * range.denominator

/-- The better neighbour, told in the unit of the refined interval. -/
theorem onGrid_eq (range : Interval) (tie : Tie) (exponent : Int) :
    range.onGrid tie exponent =
      let refined := range.scaled (tenTo (-exponent).toNat)
      let step := range.step exponent
      let lower := refined.value / step
      match refined.holds (lower * step), refined.holds ((lower + 1) * step) with
      | true, false => some lower
      | false, true => some (lower + 1)
      | true, true =>
        if 2 * (refined.value % step) < step then some lower
        else if step < 2 * (refined.value % step) then some (lower + 1)
        else some (if tie.roundsUp lower then lower + 1 else lower)
      | false, false => none :=
  rfl

/-- A candidate in the interval is above its lower end, and not above its upper end. -/
theorem holds_bounds {candidate : Nat} (holds : range.holds candidate = true) :
    range.value - range.below ≤ candidate ∧ candidate ≤ range.value + range.above := by
  unfold Interval.holds at holds
  split at holds
  · simpa using holds
  · have bounds : range.value - range.below < candidate ∧
        candidate < range.value + range.above := by simpa using holds
    omega

/-- A range holds what is near enough to its value. -/
theorem holds_of_near {candidate : Nat} (below_lt : range.below < range.value)
    (lower : range.value < candidate + range.below)
    (upper : candidate < range.value + range.above) : range.holds candidate = true := by
  unfold Interval.holds
  split
  · simp only [Bool.and_eq_true, decide_eq_true_eq]
    omega
  · simp only [Bool.and_eq_true, decide_eq_true_eq]
    omega

/-- What is found on a grid is one of the neighbours of the number, and lies in the interval. -/
theorem onGrid_spec (found : range.onGrid tie exponent = some number) :
    let refined := range.scaled (tenTo (-exponent).toNat)
    refined.holds (number * range.step exponent) = true ∧
      number ≤ refined.value / range.step exponent + 1 := by
  intro refined
  rw [onGrid_eq] at found
  dsimp only at found
  split at found
  · next lower _ =>
      obtain rfl := Option.some.inj found
      exact ⟨lower, Nat.le_succ _⟩
  · next _ upper =>
      obtain rfl := Option.some.inj found
      exact ⟨upper, Nat.le_refl _⟩
  · next lower upper =>
      split at found
      · obtain rfl := Option.some.inj found
        exact ⟨lower, Nat.le_succ _⟩
      split at found
      · obtain rfl := Option.some.inj found
        exact ⟨upper, Nat.le_refl _⟩
      obtain rfl := Option.some.inj found
      split
      · exact ⟨upper, Nat.le_refl _⟩
      · exact ⟨lower, Nat.le_succ _⟩
  · cases found

/-- A grid whose unit is less than twice the distance to the nearer end has a decimal in the
interval. -/
theorem onGrid_isSome (fine : range.Fine) (tie : Tie)
    (narrow : range.step exponent < 2 * (range.below * tenTo (-exponent).toNat)) :
    (range.onGrid tie exponent).isSome := by
  have up_pos := tenTo_pos (-exponent).toNat
  have step_pos : 0 < range.step exponent := Nat.mul_pos (tenTo_pos _) fine.denominator_pos
  let refined := range.scaled (tenTo (-exponent).toNat)
  have below_lt : refined.below < refined.value := Nat.mul_lt_mul_of_pos_right fine.below_lt up_pos
  have below_le : refined.below ≤ refined.above := Nat.mul_le_mul_right _ fine.below_le
  have narrow : range.step exponent < 2 * refined.below := narrow
  have split := Nat.div_add_mod refined.value (range.step exponent)
  have rest := Nat.mod_lt refined.value step_pos
  rw [Nat.mul_comm] at split
  -- The nearer neighbour is at most half a unit away.
  have near : refined.holds (refined.value / range.step exponent * range.step exponent) = true ∨
      refined.holds ((refined.value / range.step exponent + 1) * range.step exponent) = true := by
    rw [Nat.succ_mul]
    by_cases half : 2 * (refined.value % range.step exponent) ≤ range.step exponent
    · exact .inl (holds_of_near below_lt (by omega) (by omega))
    · exact .inr (holds_of_near below_lt (by omega) (by omega))
  rw [onGrid_eq]
  dsimp only
  split
  · rfl
  · rfl
  · split
    · rfl
    split <;> rfl
  · next lower upper =>
      rw [lower, upper] at near
      simp at near

/-- The search ends with a decimal if the last grid has one. -/
theorem search_spec (power : Int) (fuel count : Nat)
    (last : (range.onGrid tie (power - (count + fuel : Nat) + 1)).isSome) :
    ∃ found number, count ≤ found ∧ found ≤ count + fuel ∧
      range.search tie power fuel count = (number, power - found + 1) ∧
      range.onGrid tie (power - found + 1) = some number := by
  induction fuel generalizing count with
  | zero =>
      obtain ⟨number, here⟩ := Option.isSome_iff_exists.mp last
      refine ⟨count, number, Nat.le_refl _, Nat.le_refl _, ?_, here⟩
      rw [Nat.add_zero] at here
      rw [search, here]
      rfl
  | succ fuel ih =>
      rw [search]
      cases here : range.onGrid tie (power - count + 1) with
      | some number => exact ⟨count, number, Nat.le_refl _, Nat.le_add_right _ _, rfl, here⟩
      | none =>
          have same : count + (fuel + 1) = count + 1 + fuel := by omega
          rw [same] at last
          obtain ⟨found, number, after, before, ends, there⟩ := ih (count + 1) last
          exact ⟨found, number, by omega, by omega, ends, there⟩

/-- The first digit of a number counts with a power of ten that it reaches. -/
theorem exists_leadingPower (fine : range.Fine) :
    ∃ leading : Nat, leadingPower range.value range.denominator = (leading : Int) - 400 ∧
      tenTo leading * range.denominator ≤ range.value * tenTo 400 ∧
      range.value * tenTo 400 < tenTo (leading + 1) * range.denominator := by
  have positive : 0 < range.value * tenTo 400 / range.denominator :=
    Nat.div_pos fine.denominator_le fine.denominator_pos
  obtain ⟨leading, count⟩ : ∃ leading,
      digitCount (range.value * tenTo 400 / range.denominator) = leading + 1 :=
    Nat.exists_eq_succ_of_ne_zero (Nat.ne_of_gt Nat.length_toDigits_pos)
  have length (k : Nat) (some : 0 < k) : leading + 1 ≤ k ↔
      range.value * tenTo 400 / range.denominator < 10 ^ k := by
    rw [← count]
    exact Nat.length_toDigits_le_iff (by decide) some
  refine ⟨leading, ?_, ?_, ?_⟩
  · rw [leadingPower, count]
    omega
  · have reached : 10 ^ leading ≤ range.value * tenTo 400 / range.denominator := by
      rcases Nat.eq_zero_or_pos leading with rfl | some
      · exact positive
      · exact Nat.le_of_not_lt fun less => absurd ((length leading some).mpr less) (by omega)
    exact (Nat.le_div_iff_mul_le fine.denominator_pos).mp reached
  · exact (Nat.div_lt_iff_lt_mul fine.denominator_pos).mp ((length _ (by omega)).mp (Nat.le_refl _))

/-- With seventeen digits the grid is narrow enough, because ten to the power of sixteen is more
than two to the power of fifty-three. -/
theorem step_narrow (fine : range.Fine) {leading : Nat}
    (reached : tenTo leading * range.denominator ≤ range.value * tenTo 400)
    (last : exponent = (leading : Int) - 400 - (17 : Nat) + 1) :
    range.step exponent < 2 * (range.below * tenTo (-exponent).toNat) := by
  have expanded : tenTo exponent.toNat * tenTo 417 =
      tenTo (-exponent).toNat * tenTo (leading + 1) := tenTo_split (by omega)
  have next : tenTo (leading + 1) = tenTo leading * 10 := Nat.pow_succ 10 leading
  have seventeen : tenTo 417 = tenTo 17 * tenTo 400 := tenTo_add 17 400
  have up_pos := tenTo_pos (-exponent).toNat
  have below_pos := Nat.mul_pos fine.below_pos up_pos
  apply Nat.lt_of_mul_lt_mul_right (a := tenTo 417)
  calc range.step exponent * tenTo 417
      = tenTo (-exponent).toNat * 10 * (tenTo leading * range.denominator) := by
        rw [step, Nat.mul_right_comm, expanded, next]
        ring
    _ ≤ tenTo (-exponent).toNat * 10 * (range.value * tenTo 400) := Nat.mul_le_mul_left _ reached
    _ ≤ tenTo (-exponent).toNat * 10 * (2 ^ 53 * (2 * range.below) * tenTo 400) :=
        Nat.mul_le_mul_left _ (Nat.mul_le_mul_right _ fine.value_le)
    _ = 2 ^ 53 * 10 * tenTo 400 * (2 * (range.below * tenTo (-exponent).toNat)) := by ring
    _ < tenTo 17 * tenTo 400 * (2 * (range.below * tenTo (-exponent).toNat)) := by
        have wider : 2 ^ 53 * 10 * tenTo 400 < tenTo 17 * tenTo 400 :=
          Nat.mul_lt_mul_of_pos_right (by decide) (tenTo_pos 400)
        exact Nat.mul_lt_mul_of_pos_right wider (by omega)
    _ = 2 * (range.below * tenTo (-exponent).toNat) * tenTo 417 := by
        rw [seventeen, Nat.mul_comm]

/-- A decimal that is found has no more digits than its grid, or is the next power of ten. -/
theorem number_le (fine : range.Fine) {leading count : Nat}
    (less : range.value * tenTo 400 < tenTo (leading + 1) * range.denominator) (few : count ≤ 17)
    (grid : exponent = (leading : Int) - 400 - count + 1)
    (found : range.onGrid tie exponent = some number) : number ≤ tenTo count := by
  have expanded : tenTo exponent.toNat * tenTo 417 =
      tenTo (-exponent).toNat * tenTo (leading + 18 - count) := tenTo_split (by omega)
  have seventeen : tenTo 417 = tenTo 17 * tenTo 400 := tenTo_add 17 400
  have digits : tenTo (leading + 1) * tenTo 17 = tenTo count * tenTo (leading + 18 - count) := by
    rw [← tenTo_add, ← tenTo_add]
    congr 1
    omega
  have up_pos := tenTo_pos (-exponent).toNat
  have step_pos : 0 < range.step exponent := Nat.mul_pos (tenTo_pos _) fine.denominator_pos
  have below : range.value * tenTo (-exponent).toNat < tenTo count * range.step exponent := by
    apply Nat.lt_of_mul_lt_mul_right (a := tenTo 417)
    calc range.value * tenTo (-exponent).toNat * tenTo 417
        = range.value * tenTo 400 * (tenTo 17 * tenTo (-exponent).toNat) := by
          rw [seventeen]
          ring
      _ < tenTo (leading + 1) * range.denominator * (tenTo 17 * tenTo (-exponent).toNat) :=
          Nat.mul_lt_mul_of_pos_right less (Nat.mul_pos (tenTo_pos 17) up_pos)
      _ = tenTo (leading + 1) * tenTo 17 * range.denominator * tenTo (-exponent).toNat := by ring
      _ = tenTo count * range.denominator *
            (tenTo (-exponent).toNat * tenTo (leading + 18 - count)) := by
          rw [digits]
          ring
      _ = tenTo count * range.step exponent * tenTo 417 := by
          rw [← expanded, step]
          ring
  have neighbour := (onGrid_spec found).2
  have quotient := (Nat.div_lt_iff_lt_mul step_pos).mpr below
  exact neighbour.trans quotient

/-- A decimal that is found is positive and does not pass the highest of them. -/
theorem number_bounds (fine : range.Fine) (found : range.onGrid tie exponent = some number) :
    0 < number ∧ number * tenTo exponent.toNat ≤ highest * tenTo (-exponent).toNat := by
  obtain ⟨lower, upper⟩ := holds_bounds (onGrid_spec found).1
  have up_pos := tenTo_pos (-exponent).toNat
  constructor
  · have above : 0 < range.value * tenTo (-exponent).toNat -
        range.below * tenTo (-exponent).toNat :=
      Nat.sub_pos_of_lt (Nat.mul_lt_mul_of_pos_right fine.below_lt up_pos)
    have positive : 0 < number * range.step exponent := Nat.lt_of_lt_of_le above lower
    exact Nat.pos_of_mul_pos_right positive
  · apply Nat.le_of_mul_le_mul_right _ fine.denominator_pos
    calc number * tenTo exponent.toNat * range.denominator
        = number * range.step exponent := by rw [step, Nat.mul_assoc]
      _ ≤ range.value * tenTo (-exponent).toNat + range.above * tenTo (-exponent).toNat := upper
      _ = (range.value + range.above) * tenTo (-exponent).toNat := (Nat.add_mul ..).symm
      _ ≤ highest * range.denominator * tenTo (-exponent).toNat :=
          Nat.mul_le_mul_right _ fine.above_le
      _ = highest * tenTo (-exponent).toNat * range.denominator := Nat.mul_right_comm ..

end Interval

/-- Digits as the shortest decimal of a number has them: one to seventeen, of which the first is
not zero, for a decimal that does not pass the highest of them. -/
structure Proper (decimal : Digits) : Prop where
  nonempty : decimal.digits ≠ []
  digits : ∀ c ∈ decimal.digits, c.isDigit = true
  leading : decimal.digits.head? ≠ some '0'
  few : decimal.digits.length ≤ 17
  value_pos : 0 < digitsValue decimal.digits
  value_le : ∀ exponent : Int, exponent = decimal.power - decimal.digits.length + 1 →
    digitsValue decimal.digits * tenTo exponent.toNat ≤ highest * tenTo (-exponent).toNat

/-- The digits of a number that is no longer than seventeen of them, or the next power of ten,
without the zeros at their end. -/
theorem proper_stripZeros {number : Nat} {exponent power : Int} (positive : 0 < number)
    (few : number ≤ tenTo 17)
    (below : number * tenTo exponent.toNat ≤ highest * tenTo (-exponent).toNat)
    (first : power = exponent + (Nat.toDigits 10 number).length - 1) :
    Proper ⟨stripZeros (Nat.toDigits 10 number), power⟩ := by
  obtain ⟨zeros, split⟩ := exists_stripZeros (Nat.toDigits 10 number)
  have value : digitsValue (stripZeros (Nat.toDigits 10 number)) * tenTo zeros = number := by
    have whole := digitsValue_toDigits number
    rw [split, digitsValue_append, digitsValue_replicate, List.length_replicate] at whole
    exact whole
  have length := congrArg List.length split
  rw [List.length_append, List.length_replicate] at length
  have nonempty : stripZeros (Nat.toDigits 10 number) ≠ [] := by
    intro none
    have zero : digitsValue [] = 0 := rfl
    rw [none, zero] at value
    omega
  have value_pos : 0 < digitsValue (stripZeros (Nat.toDigits 10 number)) :=
    Nat.pos_of_mul_pos_right (value ▸ positive)
  refine ⟨nonempty, ?_, ?_, ?_, value_pos, ?_⟩
  · intro c member
    apply isDigit_of_mem_toDigits (n := number)
    rw [split]
    exact List.mem_append_left _ member
  · intro leads
    have head := head?_toDigits positive
    rw [split, List.head?_append, leads] at head
    exact head rfl
  · rcases Nat.lt_or_eq_of_le few with short | rfl
    · have short :=
        (Nat.length_toDigits_le_iff (b := 10) (by decide) (k := 17) (by decide)).mpr short
      dsimp only
      omega
    · have single : (stripZeros (Nat.toDigits 10 (tenTo 17))).length = 1 := by decide
      dsimp only
      omega
  · intro shifted same
    dsimp only at same
    have expanded : tenTo shifted.toNat * tenTo (-exponent).toNat =
        tenTo zeros * tenTo exponent.toNat * tenTo (-shifted).toNat := by
      rw [← tenTo_add, ← tenTo_add, ← tenTo_add]
      congr 1
      omega
    apply Nat.le_of_mul_le_mul_right _ (tenTo_pos (-exponent).toNat)
    calc digitsValue (stripZeros (Nat.toDigits 10 number)) * tenTo shifted.toNat *
          tenTo (-exponent).toNat
        = number * tenTo exponent.toNat * tenTo (-shifted).toNat := by
          rw [Nat.mul_assoc, expanded, ← Nat.mul_assoc, ← Nat.mul_assoc, value]
      _ ≤ highest * tenTo (-exponent).toNat * tenTo (-shifted).toNat :=
          Nat.mul_le_mul_right _ below
      _ = highest * tenTo (-shifted).toNat * tenTo (-exponent).toNat := Nat.mul_right_comm ..

/-- **The shortest decimal of a number between zero and the greatest one is found.** -/
theorem shortest_proper {x : Double} (less : x.IsBelowGreatest)
    (nonzero : 0 < x.significand) (tie : Tie) : Proper (x.shortest tie) := by
  have fine := interval_fine less nonzero
  obtain ⟨leading, power, reached, above⟩ := Interval.exists_leadingPower fine
  have last := Interval.onGrid_isSome fine tie (Interval.step_narrow fine reached rfl)
  obtain ⟨count, number, some, few, ends, found⟩ :=
    Interval.search_spec ((leading : Int) - 400) 16 1 last
  have few := (Interval.number_le fine above few rfl found).trans (tenTo_le few)
  obtain ⟨positive, below⟩ := Interval.number_bounds fine found
  unfold shortest
  dsimp only
  rw [power, ends]
  exact proper_stripZeros positive few below rfl

end Double

end SchemaBootstrap
