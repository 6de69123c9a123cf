import SchemaBootstrap.Decimal.Double

/-! # JSON values

The members of an object keep their order, and each name occurs once: putting a
member under a name that is there already replaces its value in place.
-/

namespace SchemaBootstrap

/-- A JSON value. A number is an integer, or a double if it was written with a
point or an exponent or lies outside the range of machine integers. -/
inductive Json where
  | null
  | bool (value : Bool)
  | integer (value : Int)
  | double (value : Double)
  | string (value : String)
  | array (elements : List Json)
  | object (members : List (String × Json))
  deriving Inhabited, Repr

namespace Json

/-- The array of the values under a function. -/
def list (write : α → Json) (values : List α) : Json :=
  .array (values.map write)

/-- The array of texts. -/
def strings (values : List String) : Json :=
  .array (values.map .string)

/-- A value that may be absent, absence being null. -/
def option (write : α → Json) : Option α → Json
  | none => .null
  | some value => write value

/-- The value of the member with a name, if the value is an object that has it. -/
def member? (name : String) : Json → Option Json
  | .object members => members.lookup name
  | _ => none

/-- Puts a member at the end, or in the place of the one with its name. -/
def putMember (name : String) (value : Json) : List (String × Json) → List (String × Json)
  | [] => [(name, value)]
  | (other, old) :: rest =>
    if other = name then (name, value) :: rest else (other, old) :: putMember name value rest

end Json

end SchemaBootstrap
