import SchemaBootstrap.Decoding.Fields
import Mathlib.Data.List.Basic

/-! # Records without what is not read

A record reader looks at the pairs whose names it declares. Leaving out the others, and
changing values in ways that their readers do not see, changes neither what is read nor
which fault comes first (`Fields.run_kept`): the pairs that stay keep their order, and of two
faults the one that stood first still does.
-/

namespace SchemaBootstrap

namespace Fields

/-- The pairs that are kept, with what is kept of their values. -/
def kept (keep : String → β → Option β) (entries : List (String × β)) : List (String × β) :=
  entries.filterMap fun entry => (keep entry.1 entry.2).map (entry.1, ·)

/-- The number of pairs kept before a position. -/
def keptBefore (keep : String → β → Option β) (entries : List (String × β)) (position : Nat) :
    Nat :=
  (kept keep (entries.take position)).length

/-- Whether the pair at a position is kept. -/
def KeptAt (keep : String → β → Option β) (entries : List (String × β)) (position : Nat) :
    Prop :=
  ∃ entry, entries[position]? = some entry ∧ (keep entry.1 entry.2).isSome

variable {keep : String → β → Option β} {entries : List (String × β)}

theorem kept_cons_of_some {entry : String × β} {value : β}
    (stays : keep entry.1 entry.2 = some value) (rest : List (String × β)) :
    kept keep (entry :: rest) = (entry.1, value) :: kept keep rest :=
  List.filterMap_cons_some (by rw [stays]; rfl)

theorem kept_cons_of_none {entry : String × β} (goes : keep entry.1 entry.2 = none)
    (rest : List (String × β)) : kept keep (entry :: rest) = kept keep rest :=
  List.filterMap_cons_none (by rw [goes]; rfl)

theorem keptBefore_cons_succ (entry : String × β) (rest : List (String × β)) (position : Nat) :
    keptBefore keep (entry :: rest) (position + 1) =
      (if (keep entry.1 entry.2).isSome then 1 else 0) + keptBefore keep rest position := by
  unfold keptBefore
  rw [List.take_succ_cons]
  cases stays : keep entry.1 entry.2 with
  | none =>
      rw [kept_cons_of_none stays, Option.isSome_none, if_neg Bool.false_ne_true, Nat.zero_add]
  | some value =>
      rw [kept_cons_of_some stays, List.length_cons, Option.isSome_some, if_pos rfl, Nat.add_comm]

/-- Behind more entries, no fewer are kept. -/
theorem keptBefore_mono {first second : Nat} (before : first ≤ second) :
    keptBefore keep entries first ≤ keptBefore keep entries second :=
  (((List.take_prefix_take_left before).sublist).filterMap _).length_le

/-- A kept entry counts for all positions behind it. -/
theorem keptBefore_lt {first second : Nat} (here : KeptAt keep entries first)
    (before : first < second) : keptBefore keep entries first < keptBefore keep entries second := by
  induction entries generalizing first second with
  | nil =>
      obtain ⟨entry, found, -⟩ := here
      cases found
  | cons entry rest ih =>
      cases second with
      | zero => exact absurd before (Nat.not_lt_zero _)
      | succ second =>
          rw [keptBefore_cons_succ]
          cases first with
          | zero =>
              obtain ⟨entry', found, stays⟩ := here
              cases found
              rw [if_pos stays]
              exact Nat.lt_of_lt_of_le Nat.zero_lt_one (Nat.le_add_right _ _)
          | succ first =>
              rw [keptBefore_cons_succ]
              exact Nat.add_lt_add_left (ih here (Nat.lt_of_succ_lt_succ before)) _

/-- The order of two pairs that are kept stays what it is. -/
theorem keptBefore_lt_iff {first second : Nat} (here : KeptAt keep entries first) :
    keptBefore keep entries first < keptBefore keep entries second ↔ first < second := by
  constructor
  · intro less
    by_contra after
    exact absurd (keptBefore_mono (Nat.le_of_not_lt after)) (Nat.not_le_of_lt less)
  · exact keptBefore_lt here

/-- A kept name is found at its place among the kept entries. -/
theorem find?_kept {name : String} {change : β → β}
    (stays : ∀ value, keep name value = some (change value)) (entries : List (String × β)) :
    find? name (kept keep entries) =
      (find? name entries).map fun found => (keptBefore keep entries found.1, change found.2) := by
  induction entries with
  | nil => rfl
  | cons entry rest ih =>
      obtain ⟨other, value⟩ := entry
      by_cases same : other = name
      · subst same
        rw [kept_cons_of_some (stays value), find?, find?, if_pos rfl, if_pos rfl]
        rfl
      · have later : find? name ((other, value) :: rest) =
            (find? name rest).map fun found => (found.1 + 1, found.2) := if_neg same
        rw [later, Option.map_map]
        cases left : keep other value with
        | none =>
            rw [kept_cons_of_none left, ih]
            refine congrArg (Option.map · (find? name rest)) (funext fun found => ?_)
            simp only [Function.comp, keptBefore_cons_succ, left, Option.isSome_none,
              Bool.false_eq_true, if_false, Nat.zero_add]
        | some value' =>
            rw [kept_cons_of_some left, find?, if_neg same, ih, Option.map_map]
            refine congrArg (Option.map · (find? name rest)) (funext fun found => ?_)
            simp only [Function.comp, keptBefore_cons_succ, left, Option.isSome_some, if_true,
              Nat.add_comm 1]

/-- An entry that is found under a kept name is kept. -/
theorem keptAt_of_find? {name : String} {change : β → β}
    (stays : ∀ value, keep name value = some (change value)) {found : Nat × β}
    (here : find? name entries = some found) : KeptAt keep entries found.1 := by
  induction entries generalizing found with
  | nil => cases here
  | cons entry rest ih =>
      obtain ⟨other, value⟩ := entry
      unfold find? at here
      split at here
      · next same =>
          subst same
          cases here
          exact ⟨(other, value), rfl, by rw [stays]; rfl⟩
      · obtain ⟨later, there, rfl⟩ := Option.map_eq_some_iff.mp here
        exact ih there

/-- A result from pairs, and the one from those that are kept: the same value, or the same
fault at the same pair. -/
inductive Matches (keep : String → β → Option β) (entries : List (String × β)) :
    Except Misfit α → Except Misfit α → Prop where
  | value (value : α) : Matches keep entries (.ok value) (.ok value)
  | fault (misfit : Misfit) (here : KeptAt keep entries misfit.position) :
      Matches keep entries (.error misfit)
        (.error ⟨keptBefore keep entries misfit.position, misfit.fault⟩)

/-- Readings that match part by part match together. -/
theorem Matches.both {function function' : Except Misfit (α → γ)}
    {argument argument' : Except Misfit α} (first : Matches keep entries function function')
    (second : Matches keep entries argument argument') :
    Matches keep entries (both function argument) (both function' argument') := by
  cases first with
  | value f =>
      cases second with
      | value a => exact .value (f a)
      | fault misfit here => exact .fault misfit here
  | fault misfit here =>
      cases second with
      | value a => exact .fault misfit here
      | fault other there =>
          -- Both fail, and the one that stands first does so among the kept pairs as well.
          unfold Fields.both
          dsimp only
          by_cases earlier : other.position < misfit.position
          · rw [if_pos earlier, if_pos ((keptBefore_lt_iff there).mpr earlier)]
            exact .fault other there
          · rw [if_neg earlier, if_neg (mt (keptBefore_lt_iff there).mp earlier)]
            exact .fault misfit here

/-- Readings that match have the same fault, wherever they found it. -/
theorem Matches.mapError_fault {result result' : Except Misfit α}
    (same : Matches keep entries result result') :
    result'.mapError Misfit.fault = result.mapError Misfit.fault := by
  cases same <;> rfl

/-- A reader that makes no difference between pairs and what is kept of them. -/
def Overlooks (keep : String → β → Option β) (fields : Fields β α) : Prop :=
  ∀ entries index index',
    Matches keep entries (fields (.pairs entries) index).1
      (fields (.pairs (kept keep entries)) index').1

theorem overlooks_pure (value : α) : Overlooks keep (pure value : Fields β α) :=
  fun _ _ _ => .value value

/-- Two fields overlook what both of them overlook. -/
theorem Overlooks.seq {function : Fields β (α → γ)} {argument : Fields β α}
    (first : Overlooks keep function) (second : Overlooks keep argument) :
    Overlooks keep (function <*> argument) :=
  fun entries index index' => (first entries index index').both (second entries _ _)

/-- What is made of a field overlooks what the field does. -/
theorem Overlooks.map {argument : Fields β α} (second : Overlooks keep argument)
    (function : α → γ) : Overlooks keep (function <$> argument) :=
  (overlooks_pure function).seq second

/-- A field with a default overlooks all other names, and the changes that its reading does not
see. -/
theorem overlooks_defaulted {name : String} {default : α} {read : β → Except DecodeFault α}
    {change : β → β} (stays : ∀ value, keep name value = some (change value))
    (unseen : ∀ value, read (change value) = read value) :
    Overlooks keep (defaulted name default read) := by
  intro entries index index'
  unfold defaulted field
  dsimp only
  rw [find?_kept stays]
  cases here : find? name entries with
  | none => exact .value default
  | some found =>
      have stands := keptAt_of_find? stays here
      simp only [Option.map_some]
      rw [unseen]
      cases read found.2 with
      | ok value => exact .value value
      | error fault => exact .fault ⟨found.1, .within name fault⟩ stands

/-- **What is not read does not count.** -/
theorem run_kept {fields : Fields β α} (overlooks : Overlooks keep fields)
    (entries : List (String × β)) :
    fields.run (.pairs (kept keep entries)) = fields.run (.pairs entries) :=
  (overlooks entries 0 0).mapError_fault

end Fields

end SchemaBootstrap
