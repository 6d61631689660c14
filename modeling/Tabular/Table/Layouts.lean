import Tabular.Layout.Column
import Tabular.Table.Validation

/-!
The layouts of a table's columns, learned from all of its rows.
-/

namespace Tabular.Table

/-- Observe the cells of a row from a column on, each in the layout of its column. Layouts without a
cell stay as they are. -/
def observeCells (rowIndex : Nat) :
    Nat → List ColumnLayout → Row → Except Error (List ColumnLayout)
  | index, layout :: layouts, cell :: cells => do
      let layout ← atCell rowIndex index (layout.observe cell)
      let layouts ← observeCells rowIndex (index + 1) layouts cells
      .ok (layout :: layouts)
  | _, layouts, _ => .ok layouts

/-- Observe rows in their order, the rows being counted from `index`. -/
def observeRows : Nat → List ColumnLayout → List Row → Except Error (List ColumnLayout)
  | _, layouts, [] => .ok layouts
  | index, layouts, row :: rows => do
      observeRows (index + 1) (← observeCells index 0 layouts row) rows

/-- The settled layouts of the columns of a table, one per column. -/
def layouts (columns : List Column) (rows : List Row) : Except Error (List ColumnLayout) := do
  validate columns rows
  let observed ← observeRows 0 (columns.map fun column => .empty column.type) rows
  .ok (observed.map ColumnLayout.settle)

end Tabular.Table
