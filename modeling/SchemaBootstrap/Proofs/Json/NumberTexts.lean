import SchemaBootstrap.Json.Reading
import SchemaBootstrap.Json.Text
import SchemaBootstrap.Proofs.Json.ScaledDoubles

/-! # Numbers that are printed are read

A number in a JSON text is its digits before the point, those behind it and an exponent
(`Json.unsigned?_fraction`, `Json.unsigned?_exponent`). An integer that fits a machine word is
read back from its text (`Json.numberText_integer`). The text of every finite double is a number
(`Json.exists_numberText_double`), whose digits are few enough to be read as a whole.
-/

namespace SchemaBootstrap

/-- What a text begins with is taken, up to where it ends. -/
theorem takeWhile_append_stop {p : α → Bool} {before rest : List α}
    (all : ∀ a ∈ before, p a = true) (stop : ∀ a ∈ rest.head?, p a = false) :
    (before ++ rest).takeWhile p = before ∧ (before ++ rest).dropWhile p = rest := by
  rw [List.takeWhile_append_of_pos all, List.dropWhile_append_of_pos all]
  cases rest with
  | nil => simp
  | cons a rest =>
      have ends := stop a rfl
      simp [ends]

namespace Double

/-- The number that digits spell behind a number. -/
def spelledBehind (value : Nat) (digits : List Char) : Nat :=
  digits.foldl (fun value c => value * 10 + (c.toNat - '0'.toNat)) value

/-- More digits never make a number smaller. -/
theorem le_spelledBehind (value : Nat) (digits : List Char) :
    value ≤ spelledBehind value digits := by
  induction digits generalizing value with
  | nil => exact Nat.le_refl value
  | cons c digits ih =>
      have longer := ih (value * 10 + (c.toNat - '0'.toNat))
      change value ≤ spelledBehind (value * 10 + (c.toNat - '0'.toNat)) digits
      omega

/-- The digits of two parts spell the second one behind the first. -/
theorem digitsValue_append_eq (digits others : List Char) :
    digitsValue (digits ++ others) = spelledBehind (digitsValue digits) others :=
  List.foldl_append

end Double

namespace Json

open Double

/-- Digits whose number fits into sixty-four bits are read as a whole. -/
theorem leadingDigits_eq {value : Nat} {digits : List Char}
    (small : spelledBehind value digits < twoTo 64) :
    leadingDigits value digits = (spelledBehind value digits, []) := by
  induction digits generalizing value with
  | nil => rfl
  | cons c digits ih =>
      have least := le_spelledBehind (value * 10 + (c.toNat - '0'.toNat)) digits
      have same : spelledBehind value (c :: digits) =
          spelledBehind (value * 10 + (c.toNat - '0'.toNat)) digits := rfl
      rw [same] at small ⊢
      unfold leadingDigits
      rw [if_pos (Nat.lt_of_le_of_lt least small)]
      exact ih small

/-- Up to seventeen digits are rounded and then scaled. -/
theorem double?_eq (minus : Bool) {whole fraction : List Char} (exponent : Int)
    (few : digitsValue (whole ++ fraction) < 10 ^ 17) :
    double? minus whole fraction exponent =
      (scaled? 4 (ofDecimal false (digitsValue (whole ++ fraction)) 0)
        (exponent - fraction.length)).map fun size => .double (size.withSign minus) := by
  have word : 10 ^ 17 < twoTo 64 := by decide
  rw [digitsValue_append_eq] at few ⊢
  have least := le_spelledBehind (digitsValue whole) fraction
  have before : leadingDigits 0 whole = (digitsValue whole, []) :=
    leadingDigits_eq (Nat.lt_trans (Nat.lt_of_le_of_lt least few) word)
  have behind : leadingDigits (digitsValue whole) fraction =
      (spelledBehind (digitsValue whole) fraction, []) :=
    leadingDigits_eq (Nat.lt_trans few word)
  unfold double?
  rw [before]
  dsimp only
  rw [behind]
  simp only [List.length_nil, Nat.sub_zero, Int.natCast_zero, Int.add_zero]

/-- The number that a text without a sign spells, with a sign. -/
def unsigned? (minus : Bool) (text : List Char) : Option Json :=
  let whole := text.takeWhile Char.isDigit
  let rest := text.dropWhile Char.isDigit
  if !isWhole whole then none
  else if rest.isEmpty then whole? minus whole
  else
    (readFraction? rest).bind fun (fraction, rest) =>
      (readExponent? rest).bind fun exponent => double? minus whole fraction exponent

theorem number?_cons_minus (text : List Char) : number? ('-' :: text) = unsigned? true text :=
  rfl

theorem number?_of_digit {c : Char} (digit : c.isDigit = true) (text : List Char) :
    number? (c :: text) = unsigned? false (c :: text) := by
  have other : c ≠ '-' := by
    rintro rfl
    cases digit
  unfold number?
  split
  next minus unsigned same =>
    split at same
    · next begins => exact absurd (List.cons.inj begins).1 other
    · cases same
      rfl

/-- Digits without a zero before others. -/
inductive Whole : List Char → Prop where
  | zero : Whole ['0']
  | positive {first : Char} {rest : List Char} (leading : first ≠ '0')
      (all : ∀ c ∈ first :: rest, c.isDigit = true) : Whole (first :: rest)

theorem isDigit_zeros (count : Nat) : ∀ c ∈ List.replicate count '0', c.isDigit = true := by
  intro c member
  rw [List.eq_of_mem_replicate member]
  rfl

namespace Whole

variable {whole : List Char}

theorem isDigit (proper : Whole whole) : ∀ c ∈ whole, c.isDigit = true := by
  cases proper with
  | zero => exact isDigit_zeros 1
  | positive leading all => exact all

theorem exists_cons (proper : Whole whole) :
    ∃ first rest, whole = first :: rest ∧ first.isDigit = true := by
  cases proper with
  | zero => exact ⟨'0', [], rfl, rfl⟩
  | positive leading all => exact ⟨_, _, rfl, all _ (List.mem_cons_self ..)⟩

theorem isWhole (proper : Whole whole) : Json.isWhole whole = true := by
  cases proper with
  | zero => rfl
  | positive leading all =>
      unfold Json.isWhole
      split
      · next none => cases none
      · rfl
      · next first rest _ same =>
          cases same
          rw [Bool.and_eq_true, bne_iff_ne, List.all_eq_true]
          exact ⟨leading, all⟩

/-- Digits of which the first is not zero. -/
theorem of_head? {digits : List Char} (nonempty : digits ≠ [])
    (all : ∀ c ∈ digits, c.isDigit = true) (leading : digits.head? ≠ some '0') :
    Whole digits := by
  cases digits with
  | nil => exact absurd rfl nonempty
  | cons first rest => exact .positive (fun same => leading (by rw [same]; rfl)) all

/-- The digits of a natural number are a whole number. -/
theorem toDigits (n : Nat) : Whole (Nat.toDigits 10 n) := by
  rcases Nat.eq_zero_or_pos n with rfl | positive
  · exact .zero
  · exact of_head? Nat.toDigits_ne_nil (fun c => isDigit_of_mem_toDigits) (head?_toDigits positive)

end Whole

variable {whole fraction : List Char} (minus : Bool)

/-- Digits alone are read as an integer, if they fit one. -/
theorem unsigned?_whole (proper : Whole whole) : unsigned? minus whole = whole? minus whole := by
  have none : ∀ c ∈ ([] : List Char).head?, c.isDigit = false := by simp
  obtain ⟨taken, left⟩ := takeWhile_append_stop proper.isDigit none
  rw [List.append_nil] at taken left
  unfold unsigned?
  rw [taken, left]
  dsimp only
  rw [proper.isWhole]
  rfl

/-- Digits behind a point. -/
theorem unsigned?_fraction (proper : Whole whole) (nonempty : fraction ≠ [])
    (all : ∀ c ∈ fraction, c.isDigit = true) (exponent : List Char)
    (stop : ∀ c ∈ exponent.head?, c.isDigit = false) :
    unsigned? minus (whole ++ '.' :: (fraction ++ exponent)) =
      (readExponent? exponent).bind fun power => double? minus whole fraction power := by
  have point : ∀ c ∈ ('.' :: (fraction ++ exponent)).head?, c.isDigit = false := by
    simp
  obtain ⟨taken, left⟩ := takeWhile_append_stop proper.isDigit point
  obtain ⟨behind, ends⟩ := takeWhile_append_stop all stop
  unfold unsigned?
  rw [taken, left]
  dsimp only
  rw [proper.isWhole]
  have read : readFraction? ('.' :: (fraction ++ exponent)) = some (fraction, exponent) := by
    change (if ((fraction ++ exponent).takeWhile Char.isDigit).isEmpty then none
      else some ((fraction ++ exponent).takeWhile Char.isDigit,
        (fraction ++ exponent).dropWhile Char.isDigit)) = some (fraction, exponent)
    rw [behind, ends, if_neg (by simpa using nonempty)]
  rw [read]
  rfl

/-- An exponent without digits behind a point. -/
theorem unsigned?_exponent (proper : Whole whole) (rest : List Char) :
    unsigned? minus (whole ++ 'e' :: rest) =
      (readExponent? ('e' :: rest)).bind fun power => double? minus whole [] power := by
  have stop : ∀ c ∈ ('e' :: rest).head?, c.isDigit = false := by
    simp
  obtain ⟨taken, left⟩ := takeWhile_append_stop proper.isDigit stop
  unfold unsigned?
  rw [taken, left]
  dsimp only
  rw [proper.isWhole]
  rfl

/-- Few digits are read as a finite double, as long as their value is not above the highest one.
-/
theorem double?_isSome {power : Int} (few : digitsValue (whole ++ fraction) < 10 ^ 17)
    (le : 0 < power - fraction.length →
      digitsValue (whole ++ fraction) * tenTo (power - fraction.length).toNat ≤ highest) :
    (double? minus whole fraction power).isSome := by
  rw [double?_eq minus power few, Option.isSome_map]
  exact scaled?_isSome few le

/-- A text that is read as a number with either sign. -/
structure Numeral (text : List Char) : Prop where
  begins : ∃ first rest, text = first :: rest ∧ first.isDigit = true
  chars : ∀ c ∈ text, isNumberChar c = true
  reads : ∀ minus, (unsigned? minus text).isSome

theorem isNumberChar_of_isDigit {c : Char} (digit : c.isDigit = true) : isNumberChar c = true := by
  unfold isNumberChar
  rw [digit]
  rfl

/-- Up to seventeen digits with a point among them. -/
theorem numeral_fraction (proper : Whole whole) (nonempty : fraction ≠ [])
    (all : ∀ c ∈ fraction, c.isDigit = true) (few : digitsValue (whole ++ fraction) < 10 ^ 17) :
    Numeral (whole ++ '.' :: fraction) where
  begins := by
    obtain ⟨first, rest, rfl, digit⟩ := proper.exists_cons
    exact ⟨first, rest ++ '.' :: fraction, rfl, digit⟩
  chars := by
    intro c member
    rcases List.mem_append.mp member with before | behind
    · exact isNumberChar_of_isDigit (proper.isDigit c before)
    rcases List.mem_cons.mp behind with rfl | behind
    · rfl
    · exact isNumberChar_of_isDigit (all c behind)
  reads := by
    intro minus
    have read := unsigned?_fraction minus proper nonempty all [] (by simp)
    rw [List.append_nil] at read
    rw [read]
    exact double?_isSome minus few (by omega)

section Spelled

variable {decimal : Digits}

theorem whole_digits (proper : Double.Proper decimal) : Whole decimal.digits :=
  .of_head? proper.nonempty proper.digits proper.leading

theorem digitsValue_lt_of_proper (proper : Double.Proper decimal) :
    digitsValue decimal.digits < 10 ^ 17 :=
  Nat.lt_of_lt_of_le (digitsValue_lt proper.digits) (Nat.pow_le_pow_right (by decide) proper.few)

/-- Digits behind zeros and the point. -/
theorem numeral_small (proper : Double.Proper decimal) (zeros : Nat) :
    Numeral (['0'] ++ '.' :: (List.replicate zeros '0' ++ decimal.digits)) := by
  refine numeral_fraction .zero ?_ ?_ ?_
  · exact List.append_ne_nil_of_right_ne_nil _ proper.nonempty
  · exact List.forall_mem_append.mpr ⟨isDigit_zeros zeros, proper.digits⟩
  · have zero : ['0'] = List.replicate 1 '0' := rfl
    rw [zero, ← List.append_assoc, List.replicate_append_replicate, digitsValue_append,
      digitsValue_replicate, Nat.zero_mul, Nat.zero_add]
    exact digitsValue_lt_of_proper proper

/-- Digits with zeros behind them, up to the point and one more behind it. -/
theorem numeral_long (proper : Double.Proper decimal) {zeros : Nat}
    (few : decimal.digits.length + zeros ≤ 16) :
    Numeral (decimal.digits ++ List.replicate zeros '0' ++ '.' :: ['0']) := by
  have filled : Whole (decimal.digits ++ List.replicate zeros '0') := by
    refine .of_head? (List.append_ne_nil_of_left_ne_nil proper.nonempty _) ?_ ?_
    · exact List.forall_mem_append.mpr ⟨proper.digits, isDigit_zeros zeros⟩
    · rw [List.head?_append_of_ne_nil _ proper.nonempty]
      exact proper.leading
  refine numeral_fraction filled (List.cons_ne_nil _ _) (isDigit_zeros 1) ?_
  refine Nat.lt_of_lt_of_le (digitsValue_lt ?_) (Nat.pow_le_pow_right (by decide) ?_)
  · exact List.forall_mem_append.mpr ⟨filled.isDigit, isDigit_zeros 1⟩
  · rw [List.length_append, List.length_append, List.length_replicate, List.length_singleton]
    omega

/-- Digits with the point among them. -/
theorem numeral_among (proper : Double.Proper decimal) {place : Nat} (some : 0 < place)
    (behind : place < decimal.digits.length) :
    Numeral (decimal.digits.take place ++ '.' :: decimal.digits.drop place) := by
  refine numeral_fraction (.of_head? ?_ ?_ ?_) ?_ ?_ ?_
  · exact List.ne_nil_of_length_pos (by rw [List.length_take]; omega)
  · exact fun c member => proper.digits c (List.mem_of_mem_take member)
  · rw [List.head?_take, if_neg (by omega)]
    exact proper.leading
  · exact List.ne_nil_of_length_pos (by rw [List.length_drop]; omega)
  · exact fun c member => proper.digits c (List.mem_of_mem_drop member)
  · rw [List.take_append_drop]
    exact digitsValue_lt_of_proper proper

/-- A decimal set with a point, as long as there are no more than sixteen digits before it. -/
theorem numeral_setPoint (proper : Double.Proper decimal) (few : decimal.power ≤ 15) :
    Numeral (Spelling.setPoint true decimal.digits (decimal.power + 1)) := by
  unfold Spelling.setPoint
  split
  · next small => exact numeral_small proper _
  split
  · next long =>
      rw [if_pos rfl]
      exact numeral_long proper (by omega)
  · next among => exact numeral_among proper (by omega) (by omega)

/-- The first six digits of a number are the number if it is short. -/
theorem digitsValue_shortened {n : Nat} (small : n < 10 ^ 6) :
    digitsValue (((Nat.toDigits 10 n).dropWhile (· == '0')).take 6) = n := by
  rcases Nat.eq_zero_or_pos n with rfl | positive
  · decide
  have short := (Nat.length_toDigits_le_iff (b := 10) (by decide) (k := 6) (by decide)).mpr small
  have leading := head?_toDigits positive
  have whole : (Nat.toDigits 10 n).dropWhile (· == '0') = Nat.toDigits 10 n := by
    cases digits : Nat.toDigits 10 n with
    | nil => rfl
    | cons first rest =>
        rw [digits] at leading
        have other : (first == '0') = false := by
          rw [beq_eq_false_iff_ne]
          exact fun same => leading (by rw [same]; rfl)
        rw [List.dropWhile_cons_of_neg (by rw [other]; exact Bool.false_ne_true)]
  rw [whole, List.take_of_length_le short, digitsValue_toDigits]

/-- The exponent of a number, with a sign. -/
def exponentText (power : Int) : List Char :=
  'e' :: ((if power < 0 then ['-'] else ['+']) ++ Nat.toDigits 10 power.natAbs)

/-- An exponent is part of the number that it belongs to. -/
theorem isNumberChar_of_mem_exponentText (power : Int) :
    ∀ c ∈ exponentText power, isNumberChar c = true := by
  intro c member
  rcases List.mem_cons.mp member with rfl | member
  · rfl
  rcases List.mem_append.mp member with sign | digit
  · split at sign
    · rw [List.mem_singleton.mp sign]
      rfl
    · rw [List.mem_singleton.mp sign]
      rfl
  · exact isNumberChar_of_isDigit (isDigit_of_mem_toDigits digit)

/-- An exponent is read back, up to negative ones of many digits. -/
theorem exists_readExponent? {power : Int} (small : power < 10 ^ 6) :
    ∃ read, readExponent? (exponentText power) = some read ∧ (read ≤ 0 ∨ read = power) := by
  have all : (Nat.toDigits 10 power.natAbs).all Char.isDigit = true :=
    List.all_eq_true.mpr fun c member => isDigit_of_mem_toDigits member
  have some : (Nat.toDigits 10 power.natAbs).isEmpty = false :=
    List.isEmpty_eq_false_iff.mpr Nat.toDigits_ne_nil
  have digits : ((Nat.toDigits 10 power.natAbs).isEmpty ||
      !(Nat.toDigits 10 power.natAbs).all Char.isDigit) = false := by
    rw [all, some]
    rfl
  by_cases neg : power < 0
  · refine ⟨-(digitsValue (((Nat.toDigits 10 power.natAbs).dropWhile (· == '0')).take 6) : Nat), ?_,
      .inl (by omega)⟩
    rw [exponentText, if_pos neg]
    change (if ((Nat.toDigits 10 power.natAbs).isEmpty ||
      !(Nat.toDigits 10 power.natAbs).all Char.isDigit) = true then none else _) = _
    rw [digits]
    rfl
  · refine ⟨power, ?_, .inr rfl⟩
    rw [exponentText, if_neg neg]
    change (if ((Nat.toDigits 10 power.natAbs).isEmpty ||
      !(Nat.toDigits 10 power.natAbs).all Char.isDigit) = true then none
      else Option.some ((digitsValue
        (((Nat.toDigits 10 power.natAbs).dropWhile (· == '0')).take 6) : Nat) : Int)) = _
    rw [digits, digitsValue_shortened (by omega), if_neg Bool.false_ne_true,
      Int.natAbs_of_nonneg (by omega)]

/-- The power of ten of a decimal that does not pass the highest one is not too great. -/
theorem power_lt (proper : Double.Proper decimal) : decimal.power < 10 ^ 6 := by
  by_contra greater
  have few := proper.few
  have le := proper.value_le _ rfl
  have zero : (-(decimal.power - decimal.digits.length + 1)).toNat = 0 := by omega
  have one : tenTo 0 = 1 := rfl
  rw [zero, one, Nat.mul_one] at le
  have grown := Nat.le_mul_of_pos_left
    (tenTo (decimal.power - decimal.digits.length + 1).toNat) proper.value_pos
  have power : tenTo 309 ≤ tenTo (decimal.power - decimal.digits.length + 1).toNat :=
    tenTo_le (by omega)
  have beyond : highest < tenTo 309 := by decide +kernel
  omega

/-- The digits of a decimal are read with its exponent. -/
theorem double?_isSome_of_exponent (proper : Double.Proper decimal)
    (split : whole ++ fraction = decimal.digits) (single : whole.length = 1) {read : Int}
    (power : read ≤ 0 ∨ read = decimal.power) : (double? minus whole fraction read).isSome := by
  have length := congrArg List.length split
  rw [List.length_append, single] at length
  apply double?_isSome
  · rw [split]
    exact digitsValue_lt_of_proper proper
  · intro positive
    obtain rfl : read = decimal.power := by omega
    have le := proper.value_le (decimal.power - fraction.length) (by omega)
    have zero : (-(decimal.power - fraction.length)).toNat = 0 := by omega
    have one : tenTo 0 = 1 := rfl
    rw [zero, one, Nat.mul_one] at le
    rw [split]
    exact le

theorem setExponent_single (first : Char) (power : Int) :
    Spelling.setExponent true [first] power = [first] ++ exponentText power :=
  rfl

theorem setExponent_cons (first second : Char) (rest : List Char) (power : Int) :
    Spelling.setExponent true (first :: second :: rest) power =
      [first] ++ '.' :: (second :: rest ++ exponentText power) :=
  rfl

/-- A decimal set with an exponent. -/
theorem numeral_setExponent (proper : Double.Proper decimal) :
    Numeral (Spelling.setExponent true decimal.digits decimal.power) := by
  have leading := whole_digits proper
  have chars := isNumberChar_of_mem_exponentText decimal.power
  obtain ⟨read, exponent, power⟩ := exists_readExponent? (power_lt proper)
  obtain ⟨first, rest, digits, digit⟩ := leading.exists_cons
  have single : ∀ c ∈ [first], isNumberChar c = true := by
    simpa using isNumberChar_of_isDigit digit
  have whole : Whole [first] := by
    rw [digits] at leading
    cases leading with
    | zero => exact .zero
    | positive leading => exact .positive leading (by simpa using digit)
  have behind : ∀ c ∈ rest, c.isDigit = true := fun c member =>
    proper.digits c (digits ▸ List.mem_cons_of_mem _ member)
  have reads (minus : Bool) : (double? minus [first] rest read).isSome :=
    double?_isSome_of_exponent minus proper digits.symm rfl power
  rw [digits]
  cases rest with
  | nil =>
      rw [setExponent_single]
      refine ⟨⟨first, _, rfl, digit⟩, List.forall_mem_append.mpr ⟨single, chars⟩, fun minus => ?_⟩
      rw [exponentText, unsigned?_exponent minus whole, ← exponentText, exponent]
      exact reads minus
  | cons second rest =>
      rw [setExponent_cons]
      have pointed : ∀ c ∈ '.' :: (second :: rest ++ exponentText decimal.power),
          isNumberChar c = true := by
        refine List.forall_mem_cons.mpr ⟨rfl, List.forall_mem_append.mpr ⟨?_, chars⟩⟩
        exact fun c member => isNumberChar_of_isDigit (behind c member)
      refine ⟨⟨first, _, rfl, digit⟩, List.forall_mem_append.mpr ⟨single, pointed⟩, fun minus => ?_⟩
      rw [unsigned?_fraction minus whole (List.cons_ne_nil _ _) behind _ (by simp [exponentText]),
        exponent]
      exact reads minus

end Spelled

/-- The text of a size is made from the exponent and the fraction alone. -/
theorem magnitude_congr {x y : Double} (spelling : Spelling)
    (exponents : x.exponentField = y.exponentField)
    (fractions : x.fractionField = y.fractionField) :
    spelling.magnitude x = spelling.magnitude y := by
  have significands : x.significand = y.significand := by
    rw [significand, significand, exponents, fractions]
  have scales : x.scale = y.scale := by
    rw [scale, scale, exponents]
  have intervals : x.interval = y.interval := by
    rw [interval, interval, significands, scales, exponents, fractions]
  have shortest (tie : Tie) : x.shortest tie = y.shortest tie := by
    rw [Double.shortest, Double.shortest, intervals]
  rw [Spelling.magnitude, Spelling.magnitude, isZero, isZero, exponents, fractions, shortest]

/-- The greatest finite number has the last exponent and a fraction of ones. -/
theorem numeral_greatest :
    Numeral (Spelling.json.magnitude (ofFields false 2046 (2 ^ 52 - 1))) where
  begins := ⟨'1', ".7976931348623157e+308".toList, by decide +kernel, rfl⟩
  chars := List.all_eq_true.mp (by decide +kernel)
  reads := by decide +kernel

/-- The text of the size of every finite double is read as a number. -/
theorem numeral_magnitude {x : Double} (finite : x.exponentField < 2047) :
    Numeral (Spelling.json.magnitude x) := by
  by_cases less : x.IsBelowGreatest
  · unfold Spelling.magnitude
    cases zero : x.isZero with
    | true => exact numeral_fraction .zero (List.cons_ne_nil '0' []) (isDigit_zeros 1) (by decide)
    | false =>
        have nonzero : x.significand ≠ 0 := fun none =>
          absurd ((significand_eq_zero_iff x).mp none) (by rw [zero]; exact Bool.false_ne_true)
        have proper := shortest_proper less (Nat.pos_of_ne_zero nonzero) Spelling.json.tie
        generalize x.shortest Spelling.json.tie = decimal at proper ⊢
        rw [if_neg Bool.false_ne_true]
        change Numeral (if (decide (-5 ≤ decimal.power) && decide (decimal.power ≤ 15)) = true
          then Spelling.setPoint true decimal.digits (decimal.power + 1)
          else Spelling.setExponent true decimal.digits decimal.power)
        split
        · next positional =>
            rw [Bool.and_eq_true, decide_eq_true_eq, decide_eq_true_eq] at positional
            exact numeral_setPoint proper positional.2
        · exact numeral_setExponent proper
  · -- The bound leaves out a single size, the greatest one.
    have fraction := x.fractionField_lt
    unfold IsBelowGreatest at less
    have leading : twoTo 52 = 2 ^ 52 := rfl
    have exponents := exponentField_ofFields false (show 2046 < 2048 by decide)
      (show 2 ^ 52 - 1 < twoTo 52 by decide)
    have fractions := fractionField_ofFields false (show 2046 < 2048 by decide)
      (show 2 ^ 52 - 1 < twoTo 52 by decide)
    have same : Spelling.json.magnitude x =
        Spelling.json.magnitude (ofFields false 2046 (2 ^ 52 - 1)) :=
      magnitude_congr Spelling.json (by omega) (by omega)
    rw [same]
    exact numeral_greatest

/-- A text that is read as a number. -/
structure NumberText (text : List Char) (value : Json) : Prop where
  begins : ∃ first rest, text = first :: rest ∧ (first.isDigit = true ∨ first = '-')
  chars : ∀ c ∈ text, isNumberChar c = true
  reads : number? text = some value

/-- A numeral is a number, with a minus or without. -/
theorem Numeral.exists_numberText {text : List Char} (numeral : Numeral text) (minus : Bool) :
    ∃ value, NumberText (if minus then '-' :: text else text) value := by
  obtain ⟨first, rest, rfl, digit⟩ := numeral.begins
  obtain ⟨value, reads⟩ := Option.isSome_iff_exists.mp (numeral.reads minus)
  cases minus with
  | true =>
      refine ⟨value, ⟨'-', first :: rest, rfl, .inr rfl⟩, ?_, ?_⟩
      · exact List.forall_mem_cons.mpr ⟨rfl, numeral.chars⟩
      · rw [if_pos rfl, number?_cons_minus]
        exact reads
  | false =>
      refine ⟨value, ⟨first, rest, rfl, .inl digit⟩, numeral.chars, ?_⟩
      rw [if_neg Bool.false_ne_true, number?_of_digit digit]
      exact reads

/-- **The text of every finite double is read as a number.** -/
theorem exists_numberText_double {x : Double} (finite : (x.isNaN || x.isInfinite) = false) :
    ∃ value, NumberText (doubleText x) value := by
  have small : x.exponentField < 2048 := Nat.mod_lt _ (by decide)
  have other : x.exponentField ≠ 2047 := by
    intro last
    rw [isNaN, isInfinite, last] at finite
    cases fraction : x.fractionField == 0 <;> simp [bne, fraction] at finite
  have nan := (Bool.or_eq_false_iff.mp finite).1
  have infinite := (Bool.or_eq_false_iff.mp finite).2
  obtain ⟨value, text⟩ := (numeral_magnitude (x := x) (by omega)).exists_numberText x.negative
  refine ⟨value, ?_⟩
  rw [doubleText, finite, if_neg Bool.false_ne_true, Spelling.text, nan, infinite,
    if_neg Bool.false_ne_true, if_neg Bool.false_ne_true, String.toList_ofList]
  exact text

/-- **An integer that a machine word holds is read back from its text.** -/
theorem numberText_integer {n : Int} (least : -2 ^ 63 ≤ n) (greatest : n < 2 ^ 64) :
    NumberText (integerText n) (.integer n) := by
  have word : twoTo 64 = 2 ^ 64 := rfl
  have half : twoTo 63 = 2 ^ 63 := rfl
  cases n with
  | ofNat n =>
      have small : n < 2 ^ 64 := Int.ofNat_lt.mp greatest
      have proper := Whole.toDigits n
      obtain ⟨first, rest, text, digit⟩ := proper.exists_cons
      refine ⟨⟨first, rest, text, .inl digit⟩, ?_, ?_⟩
      · exact fun c member => isNumberChar_of_isDigit (proper.isDigit c member)
      · change number? (Nat.toDigits 10 n) = _
        rw [text, number?_of_digit digit, ← text, unsigned?_whole false proper]
        unfold whole?
        rw [digitsValue_toDigits]
        dsimp only
        rw [if_neg Bool.false_ne_true, if_pos (by omega)]
        rfl
  | negSucc n =>
      have proper := Whole.toDigits (n + 1)
      refine ⟨⟨'-', _, rfl, .inr rfl⟩, ?_, ?_⟩
      · refine List.forall_mem_cons.mpr ⟨rfl, fun c member => ?_⟩
        exact isNumberChar_of_isDigit (proper.isDigit c member)
      · change number? ('-' :: Nat.toDigits 10 (n + 1)) = _
        rw [number?_cons_minus, unsigned?_whole true proper]
        unfold whole?
        rw [digitsValue_toDigits]
        dsimp only
        rw [if_pos rfl, if_neg (by omega)]
        rfl

end Json

end SchemaBootstrap
