import Mathlib.Algebra.Order.Monoid.Unbundled.WithTop
import SchemaBootstrap.Proofs.Decimal.Rounding
import SchemaBootstrap.Proofs.Schema.IndexKeys

/-! # Directions are signs of numbers

A value of a key document stands for a direction by the sign of the number that it is, whatever
its type (`Bson.direction?`, `SortOrder.ofBson?_eq_direction?`); for a double this is the number
that its bits encode (`Double.number?`). So a key document reads as a list of fields or does not
read at all (`Document.readFields?`), and matching compares this list with the fields of a
specification (`IndexSpec.keys_matched_exactly`).
-/

namespace SchemaBootstrap

/-- The rational numbers with an infinite number at either end. -/
abbrev ExtendedRat : Type :=
  WithBot (WithTop ℚ)

namespace Double

/-- The number that a double stands for. A NaN stands for none. -/
def number? (x : Double) : Option ExtendedRat :=
  if x.isNaN then none
  else if x.isInfinite then some (if x.negative then ⊥ else ⊤)
  else some ((if x.negative then -x.magnitude else x.magnitude : ℚ) : WithTop ℚ)

/-- No infinite number is zero. -/
theorem isZero_eq_false_of_isInfinite {x : Double} (infinite : x.isInfinite = true) :
    x.isZero = false := by
  rw [isInfinite, Bool.and_eq_true, beq_iff_eq] at infinite
  rw [isZero, infinite.1]
  rfl

end Double

namespace SortOrder

/-- The direction that a number stands for by its sign. -/
def ofNumber (number : ExtendedRat) : Option SortOrder :=
  if 0 < number then some ascending else if number < 0 then some descending else none

/-- The order of a number is that of its sign. -/
theorem ofNumber_coe (number : ℚ) :
    ofNumber ((number : WithTop ℚ) : ExtendedRat) =
      ofSigns (decide (0 < number)) (decide (number < 0)) := by
  have above : (0 : ExtendedRat) < ((number : WithTop ℚ) : ExtendedRat) ↔ 0 < number := by
    norm_cast
  have below : ((number : WithTop ℚ) : ExtendedRat) < 0 ↔ number < 0 := by
    norm_cast
  simp only [ofNumber, ofSigns, above, below, decide_eq_true_eq]

/-- The order of an integer is that of its sign. -/
theorem ofNumber_intCast (number : Int) :
    ofNumber (((number : ℚ) : WithTop ℚ) : ExtendedRat) =
      ofSigns (decide (0 < number)) (decide (number < 0)) := by
  rw [ofNumber_coe]
  simp only [Int.cast_pos, Int.cast_lt_zero]

/-- The signs that the bits of a double show are those of its number. -/
theorem ofSigns_double (x : Double) :
    ofSigns x.positive x.belowZero = x.number?.bind ofNumber := by
  unfold Double.positive Double.belowZero Double.number?
  cases x.isNaN with
  | true => rfl
  | false =>
      cases infinite : x.isInfinite with
      | true =>
          rw [Double.isZero_eq_false_of_isInfinite infinite]
          cases x.negative <;> rfl
      | false =>
          have above : decide (0 < x.magnitude) = !x.isZero := by
            cases zero : x.isZero <;> simp [x.magnitude_pos_iff, zero]
          have below : decide (x.magnitude < 0) = false :=
            decide_eq_false x.magnitude_nonneg.not_gt
          simp only [Bool.false_eq_true, ↓reduceIte, Option.bind_some, ofNumber_coe]
          cases x.negative with
          | true => simp [above, below]
          | false => simp [above, below]

end SortOrder

namespace Bson

/-- The number that a value of any numeric type is. -/
def number? : Bson → Option ExtendedRat
  | .int32 value => some ((value.toInt : ℚ) : WithTop ℚ)
  | .int64 value => some ((value.toInt : ℚ) : WithTop ℚ)
  | .double value => value.number?
  | _ => none

/-- The direction that a value stands for: the sign of a number that has one. -/
def direction? (value : Bson) : Option SortOrder :=
  value.number?.bind SortOrder.ofNumber

end Bson

/-- The order of a key is the sign of the number that it stands for. -/
theorem SortOrder.ofBson?_eq_direction? (value : Bson) : ofBson? value = value.direction? := by
  cases value with
  | int32 value => exact (ofNumber_intCast value.toInt).symm
  | int64 value => exact (ofNumber_intCast value.toInt).symm
  | double value => exact ofSigns_double value
  | _ => rfl

namespace Document

/-- The fields that a key document lists, if every pair of it is a path with a direction. -/
def readFields? : Document → Option (List IndexField)
  | [] => some []
  | (path, value) :: rest =>
    match value.direction?, readFields? rest with
    | some order, some fields => some (⟨path, order⟩ :: fields)
    | _, _ => none

/-- Keys are read unless one of them has no direction. -/
theorem readFields?_eq_none_iff (keys : Document) :
    keys.readFields? = none ↔ ∃ pair ∈ keys, pair.2.direction? = none := by
  induction keys with
  | nil => exact iff_of_false nofun nofun
  | cons pair rest ih =>
      simp only [List.mem_cons, exists_eq_or_imp, ← ih, readFields?]
      cases pair.2.direction? <;> cases readFields? rest <;> simp

/-- The fields read from a key document are those that its pairs stand for one by one. -/
theorem readFields?_eq_some_iff (keys : Document) (fields : List IndexField) :
    keys.readFields? = some fields ↔
      keys.readKeys = fields.map fun field => (field.path, some field.order) := by
  induction keys generalizing fields with
  | nil => cases fields <;> simp [readFields?, readKeys]
  | cons pair rest ih =>
      cases fields with
      | nil =>
          rw [readFields?]
          cases pair.2.direction? <;> cases readFields? rest <;> simp [readKeys]
      | cons field fields =>
          obtain ⟨path, value⟩ := pair
          obtain ⟨path', order'⟩ := field
          change _ ↔ (path, SortOrder.ofBson? value) :: readKeys rest =
            (path', some order') :: fields.map fun field => (field.path, some field.order)
          rw [List.cons.injEq, Prod.mk.injEq, ← ih, SortOrder.ofBson?_eq_direction?, readFields?]
          cases value.direction? <;> cases readFields? rest <;> simp [and_assoc]

/-- Whatever its pairs stand for, the paths are those of the fields. -/
theorem names_of_readFields? {keys : Document} {fields : List IndexField}
    (reads : keys.readFields? = some fields) : keys.names = fields.map IndexField.path := by
  have paths := congrArg (List.map Prod.fst) ((readFields?_eq_some_iff keys fields).mp reads)
  rw [readKeys, List.map_map, List.map_map] at paths
  exact paths

end Document

namespace IndexSpec

/-- A specification matches the key documents that list its fields. -/
theorem matchesKeys_iff_readFields? (spec : IndexSpec) (keys : Document) :
    spec.matchesKeys keys = true ↔ keys.readFields? = some spec.fields := by
  rw [matchesKeys_iff, Document.readFields?_eq_some_iff, directedPaths]

/-- No key document, which has no name twice, is long enough for a specification that repeats a
path. -/
theorem exists_matchesKeys_iff (spec : IndexSpec) :
    (∃ keys : Document, keys.names.Nodup ∧ spec.matchesKeys keys = true) ↔
      spec.paths.Nodup := by
  constructor
  · rintro ⟨keys, distinct, matched⟩
    have reads := (matchesKeys_iff_readFields? spec keys).mp matched
    rwa [Document.names_of_readFields? reads] at distinct
  · intro distinct
    exact ⟨spec.keys, Document.nodup_names_ofFields _, (matchesKeys_keys distinct spec).mpr rfl⟩

/-- Keys match no specification if and only if one of them has no direction. -/
theorem exists_direction?_eq_none_iff (keys : Document) :
    (∃ pair ∈ keys, pair.2.direction? = none) ↔
      ∀ spec : IndexSpec, spec.matchesKeys keys = false := by
  rw [← Document.readFields?_eq_none_iff]
  constructor
  · intro unread spec
    rw [← Bool.not_eq_true, matchesKeys_iff_readFields?, unread]
    exact nofun
  · intro unmatched
    cases reads : keys.readFields? with
    | none => rfl
    | some fields =>
        have matched := (matchesKeys_iff_readFields? ⟨fields, false⟩ keys).mpr reads
        exact absurd matched (Bool.eq_false_iff.mp (unmatched ⟨fields, false⟩))

/-- **Keys are matched exactly.** A specification matches the key documents that list its fields,
with numbers for values, whose signs are the directions. A key document with any other value in
it is matched by no specification, and one without by some. A specification is matched by some
document unless it repeats a path; and unless it does, the index made from it satisfies this
specification and no other one. -/
theorem keys_matched_exactly :
    (∀ (spec : IndexSpec) (keys : Document),
      spec.matchesKeys keys = true ↔ keys.readFields? = some spec.fields) ∧
    (∀ keys : Document,
      (∃ pair ∈ keys, pair.2.direction? = none) ↔
        ∀ spec : IndexSpec, spec.matchesKeys keys = false) ∧
    (∀ spec : IndexSpec,
      (∃ keys : Document, keys.names.Nodup ∧ spec.matchesKeys keys = true) ↔
        spec.paths.Nodup) ∧
    ∀ made : IndexSpec,
      made.paths.Nodup ↔
        ∀ spec : IndexSpec, (ExistingIndex.ofSpec made).satisfies spec = true ↔ made = spec := by
  refine ⟨matchesKeys_iff_readFields?, exists_direction?_eq_none_iff, exists_matchesKeys_iff,
    fun made => ⟨fun distinct => ExistingIndex.ofSpec_satisfies_iff distinct, fun exactly => ?_⟩⟩
  exact (ExistingIndex.ofSpec_satisfies_self_iff made).mp ((exactly made).mpr rfl)

end IndexSpec

end SchemaBootstrap
