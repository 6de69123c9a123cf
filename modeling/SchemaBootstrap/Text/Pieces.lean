/-! # Cutting and joining text

Text is cut at every occurrence of a separator (`Text.pieces`) and put together
again with a separator between neighbours (`Text.joined`). Cutting never yields
an empty list: the empty text is one empty piece.
-/

namespace SchemaBootstrap

namespace Text

/-- The pieces of a text between the occurrences of a separator. -/
def pieces (separator : Char) : List Char → List (List Char)
  | [] => [[]]
  | c :: rest =>
    if c = separator then
      [] :: pieces separator rest
    else
      match pieces separator rest with
      | [] => [[c]]
      | piece :: others => (c :: piece) :: others

theorem pieces_ne_nil (separator : Char) (text : List Char) : pieces separator text ≠ [] := by
  cases text with
  | nil => simp [pieces]
  | cons c rest =>
      simp only [pieces]
      split
      · simp
      · split <;> simp

/-- The texts in order with a separator between neighbours. -/
def joined (separator : String) : List String → String
  | [] => ""
  | [text] => text
  | text :: next :: rest => text ++ separator ++ joined separator (next :: rest)

/-- The lines of a text, with the line feeds removed. -/
def lines (text : String) : List String :=
  (pieces '\n' text.toList).map String.ofList

/-- A text repeated a number of times. -/
def repeated (text : String) : Nat → String
  | 0 => ""
  | count + 1 => text ++ repeated text count

/-- Whether a text starts with another one. -/
def startsWith (text start : String) : Bool :=
  start.toList.isPrefixOf text.toList

end Text

end SchemaBootstrap
