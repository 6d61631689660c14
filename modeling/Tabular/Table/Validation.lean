import Tabular.Value

/-!
What a table must be before it can be rendered: every row has a cell per column, and every cell that
is not empty holds a value of its column's type.
-/

namespace Tabular.Table

/-- Check that a row has one cell per column. -/
def checkLength (columns : List Column) (index : Nat) (row : Row) : Except Error Unit :=
  if row.length = columns.length then .ok ()
  else failure (.rowLength index row.length columns.length)

/-- Check that a cell holds a value of its column's type, if any. -/
def checkCell (column : Column) : Cell → Except Error Unit
  | none => .ok ()
  | some value =>
      if value.type = column.type then .ok ()
      else failure (.typeMismatch column.type value.type)

/-- Check the cells of a row from a column on, from the left. -/
def checkCells (rowIndex : Nat) : Nat → List Column → Row → Except Error Unit
  | index, column :: columns, cell :: cells => do
      atCell rowIndex index (checkCell column cell)
      checkCells rowIndex (index + 1) columns cells
  | _, _, _ => .ok ()

/-- Check every row, the rows being counted from `index`. -/
def checkRows (check : Nat → Row → Except Error Unit) : Nat → List Row → Except Error Unit
  | _, [] => .ok ()
  | index, row :: rows => do
      check index row
      checkRows check (index + 1) rows

/-- Check the rows of a table. The lengths of all rows are checked before the type of any cell, so
that a table of the wrong shape is always reported as such. -/
def validate (columns : List Column) (rows : List Row) : Except Error Unit := do
  checkRows (checkLength columns) 0 rows
  checkRows (checkCells · 0 columns) 0 rows

end Tabular.Table
