import Mathlib.Logic.Function.Basic
import SchemaBootstrap.Decoding.Fields

/-! # What is read from pairs

From pairs a reader of fields yields the same result whatever the index of its first field is
(`Fields.Yields`): a field depends on the first pair with its name only, and a larger reader on
its fields (`Fields.Yields.seq`). This is how a record is read field by field.
-/

namespace SchemaBootstrap

section Results

variable (result : Except ε α) (content : α)

/-- A value made by an injective function is that of its content. -/
theorem map_eq_ok_iff {make : α → β} (injective : Function.Injective make) :
    result.map make = .ok (make content) ↔ result = .ok content := by
  cases result with
  | error fault => exact iff_of_false nofun nofun
  | ok found =>
      change Except.ok (make found) = .ok (make content) ↔ _
      rw [Except.ok.injEq, Except.ok.injEq, injective.eq_iff]

/-- Changing the error does not change when there is none. -/
theorem mapError_eq_ok_iff (change : ε → ε') :
    result.mapError change = .ok content ↔ result = .ok content := by
  cases result with
  | error fault => exact iff_of_false nofun nofun
  | ok found => exact (Except.ok.injEq ..).to_iff.trans (Except.ok.injEq ..).to_iff.symm

end Results

namespace Fields

/-- The result that a reader has on pairs. The index of its first field among the declared ones,
which counts for elements, does not matter. -/
def Yields (fields : Fields β α) (entries : List (String × β)) (result : Except Misfit α) : Prop :=
  ∀ index, (fields (.pairs entries) index).1 = result

variable {entries : List (String × β)} {name : String} {position : Nat} (found : β)

/-- A required field that is there yields its value. -/
theorem yields_required (there : find? name entries = some (position, found))
    (read : β → Except DecodeFault α) :
    (required name read).Yields entries (placed position name (read found)) := by
  intro index
  unfold required field
  dsimp only
  rw [there]

/-- A field with a default that is there yields its value. -/
theorem yields_defaulted (there : find? name entries = some (position, found)) (value : α)
    (read : β → Except DecodeFault α) :
    (defaulted name value read).Yields entries (placed position name (read found)) := by
  intro index
  unfold defaulted field
  dsimp only
  rw [there]

/-- Fields yield together what each of them yields. -/
theorem Yields.seq {function : Fields β (α → γ)} {argument : Fields β α}
    {first : Except Misfit (α → γ)} {second : Except Misfit α}
    (before : function.Yields entries first) (after : argument.Yields entries second) :
    (function <*> argument).Yields entries (both first second) := by
  intro index
  change both (function (.pairs entries) index).1 (argument (.pairs entries) _).1 = _
  rw [before, after]

/-- What is made of a yield is yielded. -/
theorem Yields.map {fields : Fields β α} {content : α}
    (yields : fields.Yields entries (.ok content)) (make : α → γ) :
    (make <$> fields).Yields entries (.ok (make content)) := by
  intro index
  change both (.ok make) (fields (.pairs entries) index).1 = _
  rw [yields]
  rfl

theorem Yields.apply {function : Fields β (α → γ)} {argument : Fields β α} {make : α → γ}
    {content : α} (before : function.Yields entries (.ok make))
    (after : argument.Yields entries (.ok content)) :
    (function <*> argument).Yields entries (.ok (make content)) :=
  before.seq after

/-- Reading a group yields what its fields do. -/
theorem Yields.run {fields : Fields β α} {result : Except Misfit α}
    (yields : fields.Yields entries result) :
    fields.run (.pairs entries) = result.mapError Misfit.fault :=
  congrArg (Except.mapError Misfit.fault) (yields 0)

end Fields

/-- Values that are read back one by one are read back as a list. -/
theorem readEach_map {read : β → Except DecodeFault α} {write : α → β}
    (back : ∀ value, read (write value) = .ok value) (values : List α) :
    readEach read (values.map write) = .ok values := by
  induction values with
  | nil => rfl
  | cons value rest ih =>
      rw [List.map_cons, readEach, back, ih]
      rfl

end SchemaBootstrap
