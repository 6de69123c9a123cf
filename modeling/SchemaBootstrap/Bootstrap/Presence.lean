import SchemaBootstrap.Schema.Index

/-! # Declared and present indexes

A declared index is satisfied when an index with its default name has its keys and
uniqueness. It is mismatched when the index with its name differs, or its keys are
taken under another name; otherwise it is missing.
-/

namespace SchemaBootstrap

/-- How a declared index relates to the indexes of a collection. -/
inductive IndexPresence where
  | satisfied
  | mismatched (actual : ExistingIndex)
  | missing
  deriving Repr

namespace IndexPresence

/-- How a declared index relates to those that are present. -/
def classify (present : List ExistingIndex) (spec : IndexSpec) : IndexPresence :=
  match present.find? (·.name == spec.name) with
  | some actual => if actual.satisfies spec then satisfied else mismatched actual
  | none =>
    match present.find? (spec.matchesKeys ·.keys) with
    | some actual => mismatched actual
    | none => missing

/-- Whether an index is there as declared. -/
def isSatisfied : IndexPresence → Bool
  | satisfied => true
  | _ => false

end IndexPresence

end SchemaBootstrap
