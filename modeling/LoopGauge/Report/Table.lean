import LoopGauge.Number.Basic
import LoopGauge.Report.Figures
import LoopGauge.Text.Blank
import LoopGauge.Text.Columns

/-!
# Tables

Two ways of drawing a table: with borders of `|`, `-` and `+` for plain text, and between two
rules for a terminal with colours. Cells are filled up before they are coloured.

## Main definitions

* `TableFormat.draw`: the bordered table.
* `drawRuled`: the table between rules.
-/

namespace LoopGauge.Report

open Text

/-- A cell filled up to a width. -/
def align (a : Alignment) (n : Nat) (s : String) : String :=
  match a with
  | .left => padEnd n s
  | .right => padStart n s

/-- A text without the blanks at its end. -/
def trimmedEnd (s : String) : String := String.ofList (trimEnd s.toList)

/-- The width of a column: of its header, and of the cells in it, at least its minimum. -/
def columnWidth (column : Option Column) (cells : List String) : Nat :=
  let base := (column.map fun c => max c.minWidth (width c.header)).getD 0
  (cells.map width).foldl max base

/-- The widths of a number of columns. -/
def columnWidths (count : Nat) (columns : List Column) (rows : List (List String)) : List Nat :=
  (List.range count).map fun i => columnWidth columns[i]? (rows.filterMap (·[i]?))

/-- A bordered table, with or without its borders and its header. -/
structure TableFormat where
  columns : List Column
  borders : Bool
  header : Bool
deriving DecidableEq, Repr

namespace TableFormat

/-- The columns that rows need; there may be more than are declared. -/
def columnCount (f : TableFormat) (rows : List (List String)) : Nat :=
  (rows.map List.length).foldl max f.columns.length

def widths (f : TableFormat) (rows : List (List String)) : List Nat :=
  columnWidths (f.columnCount rows) f.columns rows

/-- The alignments of the columns; undeclared columns are filled up on the right. -/
def alignments (f : TableFormat) (count : Nat) : List Alignment :=
  (List.range count).map fun i => (f.columns[i]?.map Column.alignment).getD .left

/-- A cell with what separates it from the next. -/
def cellText (f : TableFormat) (a : Alignment) (n : Nat) (s : String) : String :=
  if f.borders then " " ++ align a n s ++ " |" else align a n s ++ "  "

/-- A row of cells. -/
def line (f : TableFormat) (widths : List Nat) (cells : List String) : String :=
  let parts := (cells.zip ((f.alignments widths.length).zip widths)).map fun (s, a, n) =>
    f.cellText a n s
  trimmedEnd ((if f.borders then "|" else "") ++ String.join parts)

/-- A border line. -/
def border (widths : List Nat) : String :=
  if widths.isEmpty then ""
  else "+" ++ String.join (widths.map fun n => repeated (n + 2) '-' ++ "+")

/-- The lines above the rows. -/
def headerLines (f : TableFormat) (widths : List Nat) : List String :=
  let rule := if f.borders then [border widths] else []
  if f.header && !f.columns.isEmpty then
    rule ++ [f.line widths (f.columns.map Column.header)] ++ rule
  else []

/-- The lines of a table. -/
def lines (f : TableFormat) (rows : List (List String)) : List String :=
  let widths := f.widths rows
  f.headerLines widths ++ rows.map (f.line widths) ++ if f.borders then [border widths] else []

/-- The table; nothing without rows. -/
def draw (f : TableFormat) (rows : List (List String)) : String :=
  if rows.isEmpty then "" else trimmedEnd (join "\n" (f.lines rows))

end TableFormat

/-- How pieces of text are coloured. -/
structure Brush where
  /-- In a tone. -/
  tone : Tone → String → String
  /-- In bold. -/
  bold : String → String

/-- A table between two rules, drawn with a brush. -/
def drawRuled (brush : Brush) (columns : List Column) (rows : List (List Cell)) : String :=
  let widths := columnWidths columns.length columns (rows.map (·.map Cell.text))
  let rule := brush.tone (.role .border) (repeated (Number.total widths + 2 * widths.length) '─')
  let header := (columns.zip widths).map fun (c, n) => align c.alignment n c.header
  let line (cells : List Cell) : String :=
    trimmedEnd (join "  " ((cells.zip (columns.zip widths)).map fun (cell, c, n) =>
      let padded := align c.alignment n cell.text
      match cell.tone with
      | some t => brush.tone t padded
      | none => padded))
  join "\n" (brush.bold (trimmedEnd (join "  " header)) :: rule :: rows.map line ++ [rule])

end LoopGauge.Report
