import Tabular.Layout.Column

/-!
The lines of a table's body: every row becomes as many lines as its highest cell has, and cells that
are not so high are filled up with blanks.
-/

namespace Tabular.Table

/-- One line of a table: a field per column. -/
abbrev Line := List String

/-- Format the cells of a row from a column on, each in the layout of its column. Cells without a
layout are left out. -/
def formatCells (rowIndex : Nat) :
    Nat → List ColumnLayout → Row → Except Error (List (ColumnLayout × Block))
  | index, layout :: layouts, cell :: cells => do
      let block ← atCell rowIndex index (layout.format cell)
      let blocks ← formatCells rowIndex (index + 1) layouts cells
      .ok ((layout, block) :: blocks)
  | _, _, _ => .ok []

/-- The number of lines that cells side by side take. Without cells it is one. -/
def height (cells : List (ColumnLayout × Block)) : Nat :=
  (cells.map fun cell => cell.2.height).foldl max 1

/-- The field of a cell in a line of its row: blank where the cell is not so high. -/
def field (index : Nat) (cell : ColumnLayout × Block) : String :=
  (cell.2.line? index).getD (Text.spaces cell.1.width)

/-- The lines that cells side by side take, one after the other. -/
def stack (cells : List (ColumnLayout × Block)) : List Line :=
  (List.range (height cells)).map fun index => cells.map (field index)

/-- The lines that cells side by side take. Most rows take only one, the first line of each cell. -/
def expand (cells : List (ColumnLayout × Block)) : List Line :=
  if height cells = 1 then [cells.map fun cell => cell.2.first] else stack cells

/-- The lines of rows in their order, the rows being counted from `index`. -/
def assembleFrom (layouts : List ColumnLayout) : Nat → List Row → Except Error (List Line)
  | _, [] => .ok []
  | index, row :: rows => do
      let cells ← formatCells index 0 layouts row
      let lines ← assembleFrom layouts (index + 1) rows
      .ok (expand cells ++ lines)

/-- The lines of a table's body. -/
def assemble (layouts : List ColumnLayout) (rows : List Row) : Except Error (List Line) :=
  assembleFrom layouts 0 rows

end Tabular.Table
