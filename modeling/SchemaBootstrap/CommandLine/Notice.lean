import SchemaBootstrap.Text.Style

/-! # Styled words and lines

How the command line marks success and failure, the state of an object, and unique
indexes.
-/

namespace SchemaBootstrap

namespace Palette

/-- A line that reports a success. -/
def success (palette : Palette) (message : String) : String :=
  palette.paint [.green, .bold] "✓" ++ " " ++ message

/-- A line that reports a failure. -/
def failure (palette : Palette) (message : String) : String :=
  palette.paint [.red, .bold] "✗" ++ " " ++ message

/-- The styles of a word for the state of an object. -/
def outcomeStyles : String → List Style
  | "created" | "satisfied" => [.green, .bold]
  | "pending" => [.blue]
  | "exists" => [.dim]
  | "missing" | "mismatched" => [.red, .bold]
  | _ => [.white]

/-- A word for the state of an object. -/
def outcome (palette : Palette) (word : String) : String :=
  palette.paint (outcomeStyles word) word

/-- The word for a unique index, and a dash for any other. -/
def uniqueness (palette : Palette) (unique : Bool) : String :=
  if unique then palette.paint [.magenta, .bold] "unique"
  else palette.paint [.dim] "-"

end Palette

end SchemaBootstrap
