import SchemaBootstrap.Json.Decoding
import SchemaBootstrap.Proofs.Decoding.KeptFields
import SchemaBootstrap.Proofs.Decoding.ReadFields

/-! # JSON values with members left out

Which members of a value are left out is told by their places (`Json.Omission`). Of the object
that a record is written as, a field that must be there is read back if it stays
(`Json.yields_required_without`), and a field with a default is read back, or as its default if
it is left out (`Json.yields_defaulted_without`).
-/

namespace SchemaBootstrap

namespace Json

/-- A step into a value: to a member of an object, or to an element of an array. -/
inductive Step where
  | member (name : String)
  | element (index : Nat)
  deriving DecidableEq, Repr

/-- The place of a value inside another one: the steps that lead to it. -/
abbrev Place : Type :=
  List Step

/-- Which members are left out, by their places. -/
abbrev Omission : Type :=
  Place → Bool

namespace Omission

/-- Nothing is left out. -/
def none : Omission :=
  fun _ => false

/-- What is left out of the value that a step leads to. -/
def below (omission : Omission) (step : Step) : Omission :=
  fun place => omission (step :: place)

/-- Whether a member of the object itself is left out. -/
def omits (omission : Omission) (name : String) : Bool :=
  omission [.member name]

/-- What is read for a member: its value, or the default if it is left out. -/
def read (omission : Omission) (name : String) (default value : α) : α :=
  if omission.omits name then default else value

/-- Only members at places of some kind are left out. -/
def Only (omission : Omission) (kind : Place → Prop) : Prop :=
  ∀ place, omission place = true → kind place

theorem only_none (kind : Place → Prop) : none.Only kind :=
  nofun

/-- What is omitted below a step is of the kind that is left there. -/
theorem Only.below {omission : Omission} {kind : Place → Prop} (only : omission.Only kind)
    (step : Step) : (omission.below step).Only fun place => kind (step :: place) :=
  fun place left => only (step :: place) left

/-- A member stays if no place of the kind begins with it. -/
theorem Only.stays {omission : Omission} {kind : Place → Prop} (only : omission.Only kind)
    {name : String} (absent : ¬ kind [.member name]) : omission.omits name = false :=
  Bool.eq_false_iff.mpr fun left => absent (only [.member name] left)

/-- Where no place is of the kind, nothing is omitted. -/
theorem Only.eq_none {omission : Omission} {kind : Place → Prop} (only : omission.Only kind)
    (absent : ∀ place, ¬ kind place) : omission = none := by
  funext place
  cases left : omission place with
  | false => rfl
  | true => exact absurd (only place left) (absent place)

end Omission

mutual

/-- A value without the members that are left out. -/
def without : Json → Omission → Json
  | .array elements, omission => .array (withoutElements elements omission 0)
  | .object members, omission => .object (withoutMembers members omission)
  | value, _ => value

/-- Elements, of which the first stands at an index, without the members that are left out. -/
def withoutElements : List Json → Omission → (index : Nat) → List Json
  | [], _, _ => []
  | element :: rest, omission, index =>
    without element (omission.below (.element index)) :: withoutElements rest omission (index + 1)

/-- Members without those that are left out, of them or of their values. -/
def withoutMembers : List (String × Json) → Omission → List (String × Json)
  | [], _ => []
  | (name, value) :: rest, omission =>
    if omission.omits name then withoutMembers rest omission
    else (name, without value (omission.below (.member name))) :: withoutMembers rest omission

end

mutual

/-- A value of which nothing is left out is what it was. -/
theorem without_none : ∀ value : Json, value.without .none = value
  | .null | .bool _ | .integer _ | .double _ | .string _ => by simp only [without]
  | .array elements => by rw [without, withoutElements_none]
  | .object members => by rw [without, withoutMembers_none]

theorem withoutElements_none :
    ∀ (elements : List Json) (index : Nat), withoutElements elements .none index = elements
  | [], _ => by rw [withoutElements]
  | element :: rest, index => by
      have below : Omission.none.below (.element index) = .none := rfl
      rw [withoutElements, below, without_none element, withoutElements_none rest]

theorem withoutMembers_none :
    ∀ members : List (String × Json), withoutMembers members .none = members
  | [] => by rw [withoutMembers]
  | (name, value) :: rest => by
      have below : Omission.none.below (.member name) = .none := rfl
      have stays : Omission.none.omits name = false := rfl
      rw [withoutMembers, stays, if_neg Bool.false_ne_true, below, without_none value,
        withoutMembers_none rest]

end

open Fields (kept find? keptBefore find?_kept)

variable {omission : Omission} {members : List (String × Json)} {name : String}

/-- What stays of a member with a name. -/
def Omission.keep (omission : Omission) (name : String) (value : Json) : Option Json :=
  if omission.omits name then Option.none else some (value.without (omission.below (.member name)))

theorem keep_of_omits (omits : omission.omits name = true) (value : Json) :
    omission.keep name value = Option.none :=
  if_pos omits

theorem keep_of_stays (stays : omission.omits name = false) (value : Json) :
    omission.keep name value = some (value.without (omission.below (.member name))) :=
  if_neg (ne_true_of_eq_false stays)

/-- Omitting members keeps the others, with what is omitted below them. -/
theorem withoutMembers_eq_kept (members : List (String × Json)) (omission : Omission) :
    withoutMembers members omission = kept omission.keep members := by
  induction members with
  | nil =>
      rw [withoutMembers]
      rfl
  | cons entry rest ih =>
      obtain ⟨name, value⟩ := entry
      rw [withoutMembers, ih]
      cases omits : omission.omits name with
      | true => exact Eq.symm (Fields.kept_cons_of_none (keep_of_omits omits value) rest)
      | false => exact Eq.symm (Fields.kept_cons_of_some (keep_of_stays omits value) rest)

/-- An omitted member is not found. -/
theorem find?_withoutMembers_of_omits (omits : omission.omits name = true)
    (members : List (String × Json)) :
    find? name (withoutMembers members omission) = Option.none := by
  induction members with
  | nil =>
      rw [withoutMembers]
      rfl
  | cons entry rest ih =>
      obtain ⟨other, value⟩ := entry
      rw [withoutMembers]
      split
      · exact ih
      · next stays =>
          have differ : other ≠ name := fun same => stays (same ▸ omits)
          rw [find?, if_neg differ, ih]
          rfl

/-- A member that stays is found at its place among those that do. -/
theorem find?_withoutMembers_of_stays (stays : omission.omits name = false)
    (members : List (String × Json)) :
    find? name (withoutMembers members omission) =
      (find? name members).map fun found =>
        (keptBefore omission.keep members found.1,
          found.2.without (omission.below (.member name))) := by
  rw [withoutMembers_eq_kept]
  exact find?_kept (keep_of_stays stays) members

variable {written : Json} {position : Nat} {read : Json → Except DecodeFault α} {content : α}

/-- A field that must be there is read back if it stays. -/
theorem yields_required_without (there : find? name members = some (position, written))
    (stays : omission.omits name = false)
    (back : read (written.without (omission.below (.member name))) = .ok content) :
    (Fields.required name read).Yields (withoutMembers members omission) (.ok content) := by
  have found := find?_withoutMembers_of_stays stays members
  rw [there] at found
  have yields := Fields.yields_required _ found read
  rwa [back] at yields

/-- A field with a default is read back, or as its default if it is left out. -/
theorem yields_defaulted_without (there : find? name members = some (position, written))
    (default : α) (back : read (written.without (omission.below (.member name))) = .ok content) :
    (Fields.defaulted name default read).Yields (withoutMembers members omission)
      (.ok (omission.read name default content)) := by
  unfold Omission.read
  cases omits : omission.omits name with
  | true =>
      have absent := find?_withoutMembers_of_omits omits members
      intro index
      unfold Fields.defaulted Fields.field
      dsimp only
      rw [absent]
      rfl
  | false =>
      have found := find?_withoutMembers_of_stays omits members
      rw [there] at found
      have yields := Fields.yields_defaulted _ found default read
      rwa [back] at yields

/-- A record is read back if its fields are. -/
theorem readRecord_without {record : String} {count : Nat} {fields : Fields Json α}
    (yields : fields.Yields (withoutMembers members omission) (.ok content)) :
    readRecord record count fields ((Json.object members).without omission) = .ok content := by
  rw [without]
  exact yields.run

/-- Elements that are read back one by one, each with what is left out of it, are read back as a
list. -/
theorem readEach_withoutElements {write : α → Json} (change : α → Omission → α)
    (back : ∀ position value, read ((write value).without (omission.below (.element position))) =
      .ok (change value (omission.below (.element position))))
    (values : List α) (index : Nat) :
    readEach read (withoutElements (values.map write) omission index) =
      .ok (values.mapIdx fun position value =>
        change value (omission.below (.element (position + index)))) := by
  induction values generalizing index with
  | nil =>
      rw [List.map_nil, withoutElements]
      rfl
  | cons value rest ih =>
      rw [List.map_cons, withoutElements, readEach, back, ih, List.mapIdx_cons]
      simp only [Nat.zero_add, Nat.add_right_comm _ 1, Nat.add_assoc]
      rfl

/-- A list is read back if each of its values is. -/
theorem readList_without {write : α → Json} (change : α → Omission → α)
    (back : ∀ position value, read ((write value).without (omission.below (.element position))) =
      .ok (change value (omission.below (.element position))))
    (values : List α) :
    readList read ((Json.list write values).without omission) =
      .ok (values.mapIdx fun position value =>
        change value (omission.below (.element position))) :=
  readEach_withoutElements change back values 0

end Json

end SchemaBootstrap
