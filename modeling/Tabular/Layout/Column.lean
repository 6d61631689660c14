import Tabular.Date.Printer
import Tabular.Layout.Block
import Tabular.Layout.Position
import Tabular.Value

/-!
The layout of a column of any type. It observes every cell of the column, is settled, and then
renders each cell to lines of the column's width. A value of another type is refused.
-/

namespace Tabular

/-- A layout for the cells of one column, according to the column's type. -/
inductive ColumnLayout where
  /-- texts: the columns that the widest takes -/
  | string (widest : Nat)
  | date
  | decimal (layout : NumberLayout)
  | position (layout : PositionLayout)
  | inventory (layout : PositionLayout)
  deriving DecidableEq, Repr

namespace ColumnLayout

/-- The layout of a column before any cell is observed. -/
def empty : ValueType → ColumnLayout
  | .string => string 0
  | .date => date
  | .decimal => decimal .empty
  | .position => position .empty
  | .inventory => inventory .empty

/-- The type of the column. -/
def type : ColumnLayout → ValueType
  | string _ => .string
  | date => .date
  | decimal _ => .decimal
  | position _ => .position
  | inventory _ => .inventory

/-- The columns that a date takes, one with a year of four digits. -/
def dateWidth : Nat := 10

/-- The width of the field. -/
def width : ColumnLayout → Nat
  | string widest => widest
  | date => dateWidth
  | decimal layout => layout.width
  | position layout => layout.width
  | inventory layout => layout.width

/-- Observe a cell. Empty cells demand nothing. -/
def observe (layout : ColumnLayout) (cell : Cell) : Except Error ColumnLayout :=
  match layout, cell with
  | layout, none => .ok layout
  | string widest, some (.string text) => .ok (string (max widest (Text.width text)))
  | date, some (.date _) => .ok date
  | decimal numbers, some (.decimal number) => .ok (decimal (numbers.observe (some number)))
  | position positions, some (.position held) => .ok (position (positions.observe held))
  | inventory positions, some (.inventory held) =>
      .ok (inventory (positions.observeAll held.positions))
  | layout, some value => failure (.typeMismatch layout.type value.type)

/-- Settle the layout for the cells observed so far. -/
def settle : ColumnLayout → ColumnLayout
  | string widest => string widest
  | date => date
  | decimal layout => decimal layout.settle
  | position layout => position layout.settle
  | inventory layout => inventory layout.settle

/-- Render a cell. An inventory takes a line for each of its positions and every other cell one
line; empty cells and empty inventories are blank. -/
def format (layout : ColumnLayout) (cell : Cell) : Except Error Block :=
  match layout, cell with
  | layout, none => .ok (.single (Text.spaces layout.width))
  | string widest, some (.string text) => .ok (.single (Text.fit text widest))
  | date, some (.date day) => .ok (.single (Text.fit day.text dateWidth))
  | decimal numbers, some (.decimal number) => .ok (.single (numbers.format (some number)))
  | position positions, some (.position held) => .ok (.single (positions.format held))
  | inventory positions, some (.inventory held) =>
      .ok (.ofLines (held.positions.map positions.format) positions.width)
  | layout, some value => failure (.typeMismatch layout.type value.type)

/-- Settling a layout, like observing, keeps its type. -/
@[simp] theorem type_settle (layout : ColumnLayout) : layout.settle.type = layout.type := by
  cases layout <;> rfl

@[simp] theorem type_empty (type : ValueType) : (empty type).type = type := by
  cases type <;> rfl

end ColumnLayout

end Tabular
