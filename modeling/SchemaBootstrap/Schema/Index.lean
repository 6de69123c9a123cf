import SchemaBootstrap.Bson.Value
import SchemaBootstrap.Text.Pieces

/-! # Index specifications

An index covers an ordered list of fields, each with a direction, and may be
unique. Its default name and its key document are derived from the fields
(`IndexSpec.name`, `IndexSpec.keys`); a key document matches a specification when
it lists the same paths in the same order and in the same directions
(`IndexSpec.matchesKeys`). The key document of a specification that repeats a path
is shorter than the specification, so nothing matches such a specification.
-/

namespace SchemaBootstrap

/-- The direction of one field of an index. -/
inductive SortOrder where
  | ascending
  | descending
  deriving DecidableEq, Repr, Inhabited

namespace SortOrder

/-- The number that stands for a direction in key documents. -/
def direction : SortOrder → Int32
  | ascending => 1
  | descending => -1

/-- The text of that number. -/
def suffix : SortOrder → String
  | ascending => "1"
  | descending => "-1"

/-- The direction that a number with a sign stands for. -/
def ofSigns (positive negative : Bool) : Option SortOrder :=
  if positive then some ascending else if negative then some descending else none

/-- The direction that a value of a key document stands for: numbers of any type
count by their sign, every other value stands for no direction. -/
def ofBson? : Bson → Option SortOrder
  | .int32 value => ofSigns (0 < value.toInt) (value.toInt < 0)
  | .int64 value => ofSigns (0 < value.toInt) (value.toInt < 0)
  | .double value => ofSigns value.positive value.belowZero
  | _ => none

end SortOrder

/-- One field of an index: a dotted path and a direction. -/
structure IndexField where
  path : String
  order : SortOrder
  deriving DecidableEq, Repr

/-- An index over an ordered list of fields. -/
structure IndexSpec where
  fields : List IndexField
  unique : Bool
  deriving DecidableEq, Repr

namespace IndexSpec

/-- The index over the given paths, all ascending. -/
def ascending (paths : List String) : IndexSpec where
  fields := paths.map fun path => ⟨path, .ascending⟩
  unique := false

/-- The unique index over the fields of an index. -/
def asUnique (spec : IndexSpec) : IndexSpec :=
  { spec with unique := true }

/-- The paths of an index, in order. -/
def paths (spec : IndexSpec) : List String :=
  spec.fields.map IndexField.path

/-- The default name of an index: each path and its direction, joined by underscores. -/
def name (spec : IndexSpec) : String :=
  Text.joined "_" (spec.fields.map fun field => field.path ++ "_" ++ field.order.suffix)

/-- The key document of an index. -/
def keys (spec : IndexSpec) : Document :=
  Document.ofFields (spec.fields.map fun field => (field.path, .int32 field.order.direction))

/-- Whether a pair of a key document stands for a field of an index. -/
def matchesField (pair : String × Bson) (field : IndexField) : Bool :=
  pair.1 == field.path && SortOrder.ofBson? pair.2 == some field.order

/-- Whether a key document lists the fields of an index, in their order. -/
def matchesKeys (spec : IndexSpec) (keys : Document) : Bool :=
  keys.length == spec.fields.length &&
    (keys.zip spec.fields).all fun entry => matchesField entry.1 entry.2

/-- The description of an index in a message. -/
def description (spec : IndexSpec) : String :=
  "(" ++ Text.joined ", " spec.paths ++ ")" ++ if spec.unique then " unique" else ""

end IndexSpec

/-- An index that a store reports. -/
structure ExistingIndex where
  name : String
  keys : Document
  unique : Bool
  deriving Repr, Inhabited

namespace ExistingIndex

/-- The index that creating a specification brings about. -/
def ofSpec (spec : IndexSpec) : ExistingIndex where
  name := spec.name
  keys := spec.keys
  unique := spec.unique

/-- Whether an index has the keys and the uniqueness of a specification. -/
def satisfies (index : ExistingIndex) (spec : IndexSpec) : Bool :=
  index.unique == spec.unique && spec.matchesKeys index.keys

end ExistingIndex

end SchemaBootstrap
