import SchemaBootstrap.Bson.Scalar

/-! # Universally unique identifiers

An identifier of sixteen bytes is written with thirty-two digits of base sixteen. With
hyphens between groups of digits it may stand in braces or behind the name of its
namespace (`Uuid.bytes?`).
-/

namespace SchemaBootstrap

namespace Uuid

/-- The bytes that pairs of digits of base sixteen spell. -/
def pairsOfDigits? : List Char → Option (List UInt8)
  | [] => some []
  | [_] => none
  | a :: b :: rest => do
    let byte ← ObjectId.digitsValue? 0 [a, b]
    let bytes ← pairsOfDigits? rest
    pure (byte.toUInt8 :: bytes)

/-- The digits of an identifier with hyphens after the eighth, twelfth, sixteenth and
twentieth. -/
def withoutHyphens? (text : List Char) : Option (List Char) :=
  let groups := [text.take 8, (text.drop 9).take 4, (text.drop 14).take 4, (text.drop 19).take 4,
    text.drop 24]
  if text.length = 36 && [8, 13, 18, 23].all fun place => text[place]? = some '-' then
    some groups.flatten
  else none

/-- The digits of an identifier in one of its notations. -/
def digits? (text : List Char) : Option (List Char) :=
  let lead := "urn:uuid:".toList
  if text.length = 32 then some text
  else if text.length = 36 then withoutHyphens? text
  else if text.length = 38 && text.head? = some '\x7b' && text.getLast? = some '\x7d' then
    withoutHyphens? text.tail.dropLast
  else if lead.isPrefixOf text then withoutHyphens? (text.drop lead.length)
  else none

/-- The bytes of an identifier. -/
def bytes? (text : String) : Option (List UInt8) :=
  (digits? text.toList).bind pairsOfDigits?

end Uuid

end SchemaBootstrap
