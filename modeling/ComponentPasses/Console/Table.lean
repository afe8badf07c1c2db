import ComponentPasses.Console.Markup
import ComponentPasses.Console.Wrapping
import ComponentPasses.Data.Binary64

/-!
# Tables on the console

A table has a title, a line of headings and rows.  Its cells are marked-up text and may have several
lines.  Rules drawn in heavy strokes stand around the headings and in light strokes around the rows;
the title stands in the middle above.

**Widths.**  Each column is as wide as the widest line in it, with a blank on either side; width is
counted in the cells of a console, where a tab takes none.  Where the columns together are too wide
for the console, the widest ones are narrowed first, until they are as wide as the next or until all
fit.  The text of a cell is then wrapped to the width of its column.
-/

namespace ComponentPasses.Console

/-- A table whose cells are marked-up text. -/
structure Table where
  title : String
  headings : List String
  rows : List (List String)

/-- The strokes of a line of a table: at its ends, between two columns, and along a column. -/
structure Strokes where
  left : String
  middle : String
  right : String
  fill : Char

/-- The rule above the headings. -/
def topRule : Strokes := ⟨"┏", "┳", "┓", '━'⟩

/-- The rule between headings and rows. -/
def headRule : Strokes := ⟨"┡", "╇", "┩", '━'⟩

/-- The rule below the rows. -/
def bottomRule : Strokes := ⟨"└", "┴", "┘", '─'⟩

/-- The strokes around headings. -/
def headLine : Strokes := ⟨"┃", "┃", "┃", ' '⟩

/-- The strokes around the cells of a row. -/
def rowLine : Strokes := ⟨"│", "│", "│", ' '⟩

/-- A run of one character. -/
def repeated (c : Char) (count : Nat) : String :=
  String.ofList (List.replicate count c)

/-- The cells of a line of the console. -/
def consoleWidth : Nat := 400

/-- The greatest of some numbers, zero where there are none. -/
def greatest (numbers : List Nat) : Nat :=
  numbers.foldl max 0

/-- Whether a character ends a line as far as the measure of a cell goes. -/
def isLineEnd (c : Char) : Bool :=
  [10, 11, 12, 13, 0x1c, 0x1d, 0x1e, 0x85, 0x2028, 0x2029].contains c.toNat

/-- The width of a cell: that of its widest line. -/
def cellWidth (cell : String) : Nat :=
  let text := (chars (glyphs cell)).map fun c => if isLineEnd c then '\n' else c
  greatest ((Text.pieces '\n' text).map Text.cells)

/-! ## 1. Widths -/

/-- Takes an excess off the columns that have the greatest width, `count` of them, as evenly as
whole cells allow and at most `most` from each. -/
def narrowWidest (widest most : Nat) (excess count : Nat) : List Nat → List Nat
  | [] => []
  | width :: rest =>
    if width = widest then
      let share := min most (Data.Binary64.roundQuotient excess count)
      (width - share) :: narrowWidest widest most (excess - share) (count - 1) rest
    else width :: narrowWidest widest most excess count rest

/-- Narrows columns until they fit, in at most so many steps. -/
def narrow (available : Nat) : Nat → List Nat → List Nat
  | 0, widths => widths
  | steps + 1, widths =>
    let excess := total widths - available
    if excess = 0 then widths
    else
      let widest := greatest widths
      let next := greatest (widths.filter (· ≠ widest))
      narrow available steps
        (narrowWidest widest (min excess (widest - next)) excess (widths.count widest) widths)

/-- Narrows columns until they fit.  Each step takes at least one cell. -/
def fitWidths (available : Nat) (widths : List Nat) : List Nat :=
  narrow available (total widths) widths

namespace Table

/-- The cells that are left to the columns beside the strokes. -/
def available (table : Table) : Nat :=
  consoleWidth - (table.headings.length + 1)

/-- The width that each column asks for, with a blank on either side. -/
def wantedWidths (table : Table) : List Nat :=
  table.headings.zipIdx.map fun (heading, column) =>
    min table.available
      (greatest ((heading :: table.rows.map fun row => row.getD column "").map cellWidth) + 2)

/-- The width of each column, with a blank on either side. -/
def widths (table : Table) : List Nat :=
  fitWidths table.available table.wantedWidths

/-! ## 2. Drawing -/

/-- A line of a table. -/
def drawLine (strokes : Strokes) (columns : List String) : String :=
  strokes.left ++ strokes.middle.intercalate columns ++ strokes.right

/-- A rule of a table. -/
def drawRule (strokes : Strokes) (widths : List Nat) : String :=
  drawLine strokes (widths.map (repeated strokes.fill))

/-- A line of a cell with a blank on either side. -/
def drawCell (width : Nat) (line : List Glyph) : String :=
  " " ++ String.ofList (fill (width - 2) line) ++ " "

/-- The lines of a row. -/
def drawRow (strokes : Strokes) (widths : List Nat) (row : List String) : List String :=
  let cells := (row.zip widths).map fun (cell, width) => wrap .ellipsis (width - 2) (glyphs cell)
  (List.range (greatest (cells.map List.length))).map fun i =>
    drawLine strokes (widths.zipIdx.map fun (width, column) =>
      drawCell width (((cells.getD column []).getD i [])))

/-- The title, in the middle of the table. -/
def drawTitle (table : Table) : String :=
  let title := plain table.title
  let width := total table.widths + table.headings.length + 1
  repeated ' ' ((width - Text.cells title.toList) / 2) ++ title

/-- The lines of a table. -/
def draw (table : Table) : List String :=
  let widths := table.widths
  table.drawTitle :: drawRule topRule widths :: drawRow headLine widths table.headings ++
    drawRule headRule widths :: table.rows.flatMap (drawRow rowLine widths) ++
    [drawRule bottomRule widths]

end Table

end ComponentPasses.Console
