import SchemaBootstrap.Text.Case
import SchemaBootstrap.Text.Pieces
import SchemaBootstrap.Text.Style
import SchemaBootstrap.Text.Width

/-! # Texts in columns

A table without rules: every cell has a blank on either side and is filled up to
the width of its column, which is at least one. The header is in upper case. A row
with fewer cells than there are columns is filled up with empty ones, and a cell of
several lines makes its row as high.
-/

namespace SchemaBootstrap

/-- A table: its headings and its rows. -/
structure Columns where
  headings : List String
  rows : List (List String)

namespace Columns

/-- The header and the rows, in the order they are shown. -/
def allRows (table : Columns) : List (List String) :=
  table.headings.map Text.upper :: table.rows

/-- The number of columns. -/
def count (table : Columns) : Nat :=
  table.allRows.foldl (fun count row => max count row.length) 0

/-- The display width of a cell: that of its widest line. -/
def cellWidth (cell : String) : Nat :=
  (Text.lines cell).foldl (fun width line => max width (Text.width line)) 0

/-- The width of each column, at least one. -/
def widths (table : Columns) : List Nat :=
  (List.range table.count).map fun column =>
    table.allRows.foldl (fun width row => max width (cellWidth (row.getD column ""))) 1

/-- A line of a cell, filled up to the width of its column. -/
def fill (width : Nat) (line : String) : String :=
  " " ++ line ++ Text.repeated " " (width - Text.width line) ++ " "

/-- The lines of one row. -/
def rowLines (widths : List Nat) (row : List String) : List String :=
  let cells := (List.range widths.length).map fun column => Text.lines (row.getD column "")
  let height := cells.foldl (fun height cell => max height cell.length) 0
  (List.range height).map fun line =>
    String.join ((widths.zip cells).map fun entry => fill entry.1 (entry.2.getD line ""))

/-- The text of a table, without a line feed at its end. -/
def text (table : Columns) : String :=
  Text.joined "\n" (table.allRows.flatMap (rowLines table.widths))

/-- A table under a line that counts its entries; without entries the line says so. -/
def listing (palette : Palette) (entity : String) (table : Columns) (total : Nat) : String :=
  if total = 0 then
    "No " ++ entity ++ "s found."
  else
    palette.paint [.bold] (Nat.repr total) ++ " " ++ (if total = 1 then entity else entity ++ "s")
      ++ ":\n" ++ table.text

end Columns

end SchemaBootstrap
