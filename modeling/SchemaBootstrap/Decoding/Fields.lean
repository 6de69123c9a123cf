import SchemaBootstrap.Decoding.Fault

/-! # Reading the fields of a record

A record is read from named pairs in any order, or from elements by position
(`Fields.Source`). Of several faults the one that stands first in the source is
reported: fields that are missing come after all pairs, in the order in which they
are declared. Names that are not declared are passed over (`Fields.run`) or refused
(`Fields.runClosed`).

A `Fields` value reads some fields and knows the position of the next one; larger
readers are put together with the applicative operations.
-/

namespace SchemaBootstrap

namespace Fields

/-- Where fields are read from. -/
inductive Source (β : Type) where
  | pairs (entries : List (String × β))
  /-- Elements by position, with the description of the record that has too few. -/
  | elements (values : List β) (expected : String)

/-- A fault and the position in the source at which it stands. -/
structure Misfit where
  position : Nat
  fault : DecodeFault

/-- Both results, or the fault that stands first. -/
def both (function : Except Misfit (α → γ)) (argument : Except Misfit α) : Except Misfit γ :=
  match function, argument with
  | .ok f, .ok a => .ok (f a)
  | .error first, .ok _ => .error first
  | .ok _, .error second => .error second
  | .error first, .error second =>
    .error (if second.position < first.position then second else first)

/-- The position of the first pair with a name, and its value. -/
def find? (name : String) : List (String × β) → Option (Nat × β)
  | [] => none
  | (other, value) :: rest =>
    if other = name then some (0, value)
    else (find? name rest).map fun found => (found.1 + 1, found.2)

end Fields

/-- A reader of some fields, given the position of the first of them among the
declared ones; it yields the position after the last. -/
def Fields (β α : Type) : Type :=
  Fields.Source β → Nat → Except Fields.Misfit α × Nat

namespace Fields

instance : Applicative (Fields β) where
  pure value := fun _ index => (.ok value, index)
  seq function argument := fun source index =>
    let first := function source index
    let second := argument () source first.2
    (both first.1 second.1, second.2)

/-- The result of reading the value of a name that stands at a position. -/
def placed (position : Nat) (name : String) (result : Except DecodeFault α) : Except Misfit α :=
  result.mapError fun fault => ⟨position, .within name fault⟩

/-- Reads one field. Its absence is answered by `absent`, if there is a default. -/
def field (name : String) (absent : Option α) (read : β → Except DecodeFault α) : Fields β α :=
  fun source index =>
    (match source with
      | .pairs entries =>
        match find? name entries, absent with
        | some (position, value), _ => placed position name (read value)
        | none, some value => .ok value
        | none, none => .error ⟨entries.length, .missingField name⟩
      | .elements values expected =>
        match values[index]?, absent with
        | some value, _ => placed index (Nat.repr index) (read value)
        | none, some value => .ok value
        | none, none => .error ⟨index, .wrongLength index expected⟩,
      index + 1)

/-- A field that must be there. -/
def required (name : String) (read : β → Except DecodeFault α) : Fields β α :=
  field name none read

/-- A field with a default. -/
def defaulted (name : String) (value : α) (read : β → Except DecodeFault α) : Fields β α :=
  field name (some value) read

/-- The record read from a source. -/
def run (fields : Fields β α) (source : Source β) : Except DecodeFault α :=
  (fields source 0).1.mapError Misfit.fault

/-- The record read from pairs of which each has one of some names. -/
def runClosed (fields : Fields β α) (names : List String) (entries : List (String × β)) :
    Except DecodeFault α :=
  let closed : Except Misfit Unit :=
    match entries.findIdx? fun entry => !names.contains entry.1 with
    | none => .ok ()
    | some position =>
      .error ⟨position, .unknownField ((entries.map Prod.fst).getD position "") names⟩
  (both (closed.map fun _ => id) (fields (.pairs entries) 0).1).mapError Misfit.fault

end Fields

/-- Reads every value of a list, up to the first fault. -/
def readEach (read : β → Except DecodeFault α) : List β → Except DecodeFault (List α)
  | [] => .ok []
  | value :: rest =>
    match read value with
    | .error fault => .error fault
    | .ok first => (readEach read rest).map (first :: ·)

end SchemaBootstrap
