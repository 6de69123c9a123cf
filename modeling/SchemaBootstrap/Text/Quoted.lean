import SchemaBootstrap.Text.Blank
import SchemaBootstrap.Text.Unprintable

/-! # Quoted texts in messages

A message shows a text between double quotes. Quotes and backslashes are escaped,
the usual controls have short escapes, and a character without a glyph of its own
is shown by its number.
-/

namespace SchemaBootstrap

namespace Text

/-- A character inside a text quoted with `quote`. -/
def escapedChar (quote c : Char) : List Char :=
  if c = quote ∨ c = '\\' then ['\\', c]
  else if c = '\n' then ['\\', 'n']
  else if c = '\t' then ['\\', 't']
  else if c = '\r' then ['\\', 'r']
  else if c = '\x00' then ['\\', '0']
  else if inRanges escapedRanges c.toNat then
    ['\\', 'u', '\x7b'] ++ Nat.toDigits 16 c.toNat ++ ['\x7d']
  else [c]

/-- A text between double quotes. -/
def quoted (text : String) : String :=
  String.ofList ('"' :: (text.toList.flatMap (escapedChar '"') ++ ['"']))

end Text

end SchemaBootstrap
