/-! # Positions in a YAML text

A cursor holds what is left of a text and where that stands: the line, the column in
characters, and the number of bytes before it. A carriage return with a line feed is
one line break.
-/

namespace SchemaBootstrap

namespace Yaml

/-- Whether a character may occur in a text at all. -/
def isPrintable (c : Char) : Bool :=
  let code := c.toNat
  c = '\t' || c = '\n' || c = '\r' || (0x20 ≤ code && code ≤ 0x7E) || code = 0x85
    || (0xA0 ≤ code && code ≤ 0xFFFD) || 0x10000 ≤ code

/-- Whether a character is a space or a tab. -/
def isSpacing (c : Char) : Bool :=
  c = ' ' || c = '\t'

/-- Whether a character ends a line. -/
def isBreak (c : Char) : Bool :=
  c = '\n' || c = '\r' || c.toNat = 0x85 || c.toNat = 0x2028 || c.toNat = 0x2029

/-- Whether a text starts with a line break. -/
def atBreak : List Char → Bool
  | [] => false
  | c :: _ => isBreak c

/-- Whether a text is at its end or starts with a line break. -/
def atLineEnd : List Char → Bool
  | [] => true
  | c :: _ => isBreak c

/-- Whether a text is at its end or starts with a space, a tab or a line break. -/
def atSpace : List Char → Bool
  | [] => true
  | c :: _ => isSpacing c || isBreak c

/-- Whether a text starts with a character. -/
def atChar (c : Char) : List Char → Bool
  | [] => false
  | first :: _ => first = c

/-- Whether a text starts with one of some characters. -/
def atAny (chars : List Char) : List Char → Bool
  | [] => false
  | first :: _ => chars.contains first

/-- Whether a text starts with a document marker that stands alone. -/
def atMarker (marker : Char) : List Char → Bool
  | a :: b :: c :: rest => a = marker && b = marker && c = marker && atSpace rest
  | _ => false

/-- The number of bytes in which characters are encoded. -/
def byteSize (chars : List Char) : Nat :=
  (chars.map Char.utf8Size).foldl (· + ·) 0

/-- A place in a text. -/
structure Cursor where
  rest : List Char
  /-- The number of bytes before the place. -/
  index : Nat
  line : Nat
  column : Nat

namespace Cursor

/-- The start of a text. -/
def start (text : List Char) : Cursor where
  rest := text
  index := 0
  line := 0
  column := 0

/-- Whether a cursor stands at the start of a line before a document marker. -/
def atDocumentMarker (cursor : Cursor) : Bool :=
  cursor.column = 0 && (atMarker '-' cursor.rest || atMarker '.' cursor.rest)

/-- The place after a number of characters of the same line. -/
def skip (cursor : Cursor) (count : Nat) : Cursor where
  rest := cursor.rest.drop count
  index := cursor.index + byteSize (cursor.rest.take count)
  line := cursor.line
  column := cursor.column + count

/-- The characters up to the first that is not of a class, and the place after them. -/
def takeWhile (cursor : Cursor) (p : Char → Bool) : List Char × Cursor :=
  let taken := cursor.rest.takeWhile p
  (taken, cursor.skip taken.length)

/-- The place after all characters of a class. -/
def skipWhile (cursor : Cursor) (p : Char → Bool) : Cursor :=
  (cursor.takeWhile p).2

/-- A line break as it counts within a text, and the place after it. -/
def takeBreak (cursor : Cursor) : List Char × Cursor :=
  match cursor.rest with
  | '\r' :: '\n' :: rest => (['\n'], ⟨rest, cursor.index + 2, cursor.line + 1, 0⟩)
  | c :: rest =>
    if isBreak c then
      (if c.toNat = 0x2028 ∨ c.toNat = 0x2029 then [c] else ['\n'],
        ⟨rest, cursor.index + c.utf8Size, cursor.line + 1, 0⟩)
    else ([], cursor)
  | [] => ([], cursor)

/-- The place after a line break. -/
def skipBreak (cursor : Cursor) : Cursor :=
  cursor.takeBreak.2

end Cursor

end Yaml

end SchemaBootstrap
