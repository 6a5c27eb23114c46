/-!
# Framed tables

Rows of text in a frame of box-drawing characters.

## Main Definitions

* `Table.render`: a header, rows, and the frame around them.

## Design Notes

A column is as wide as its longest cell, with one blank on each side.  The header is
closed by a double rule, rows are kept apart by a dashed one, and columns inside the
frame by a dashed bar.

This is the layout for output that is no terminal, so that there is no width to keep to and no
cell is broken over lines.  How a table is fitted into the width of a terminal is not described.
-/

namespace HciSerial.Table

/-- The widths of the columns. -/
def widths : List (List String) → List Nat
  | [] => []
  | [row] => row.map String.length
  | row :: rest => List.zipWith max (row.map String.length) (widths rest)

/-- A horizontal rule: its ends, the crossings between columns, and its line. -/
structure Rule where
  left : String
  crossing : String
  right : String
  line : Char

/-- The rule above the header. -/
def top : Rule := ⟨"┌", "┬", "┐", '─'⟩

/-- The rule below the header. -/
def underHeader : Rule := ⟨"╞", "╪", "╡", '═'⟩

/-- The rule between two rows. -/
def between : Rule := ⟨"├", "┼", "┤", '╌'⟩

/-- The rule below the last row. -/
def bottom : Rule := ⟨"└", "┴", "┘", '─'⟩

/-- A rule over columns of the given widths. -/
def Rule.draw (rule : Rule) (columns : List Nat) : String :=
  rule.left ++
    String.intercalate rule.crossing
      (columns.map fun width => String.ofList (List.replicate (width + 2) rule.line)) ++
    rule.right

/-- A cell filled up to the width of its column. -/
def cell (width : Nat) (text : String) : String :=
  " " ++ text ++ String.ofList (List.replicate (width - text.length) ' ') ++ " "

/-- A row over columns of the given widths. -/
def row (columns : List Nat) (cells : List String) : String :=
  "│" ++ String.intercalate "┆" (List.zipWith cell columns cells) ++ "│"

/-- The lines of a table. -/
def lines (header : List String) (rows : List (List String)) : List String :=
  let columns := widths (header :: rows)
  [top.draw columns, row columns header, underHeader.draw columns] ++
    (rows.map (row columns)).intersperse (between.draw columns) ++ [bottom.draw columns]

/-- A table without a line end after its last line. -/
def render (header : List String) (rows : List (List String)) : String :=
  String.intercalate "\n" (lines header rows)

end HciSerial.Table
