import Tabular.Layout.Number
import Tabular.Position.Basic
import Tabular.Text.Fit

/-!
The layout of a column of positions: the number of units, their currency and, if any position of the
column has a cost, the cost in braces. The two numbers are aligned each on its own decimal point.
-/

namespace Tabular

/-- A layout of positions. The widths of the currencies and the room for costs follow the positions
at once; the layouts of the numbers have to be settled. -/
structure PositionLayout where
  units : NumberLayout := {}
  unitsCurrency : Nat := 0
  cost : NumberLayout := {}
  costCurrency : Nat := 0
  hasCost : Bool := false
  deriving DecidableEq, Repr

namespace PositionLayout

/-- The layout before any position is observed. -/
def empty : PositionLayout := {}

/-- Observe what a position cost. -/
def observeCost (layout : PositionLayout) (cost : Amount) : PositionLayout :=
  { layout with
    cost := layout.cost.observe (some cost.number)
    costCurrency := max layout.costCurrency (Text.width cost.currency)
    hasCost := true }

/-- Observe the units that a position holds. -/
def observeUnits (layout : PositionLayout) (units : Amount) : PositionLayout :=
  { layout with
    units := layout.units.observe (some units.number)
    unitsCurrency := max layout.unitsCurrency (Text.width units.currency) }

/-- Observe a position. -/
def observe (layout : PositionLayout) (position : Position) : PositionLayout :=
  match position.cost with
  | none => layout.observeUnits position.units
  | some cost => (layout.observeUnits position.units).observeCost cost

/-- Observe positions in their order. -/
def observeAll (layout : PositionLayout) (positions : List Position) : PositionLayout :=
  positions.foldl observe layout

/-- Settle the layouts of the numbers. -/
def settle (layout : PositionLayout) : PositionLayout :=
  { layout with units := layout.units.settle, cost := layout.cost.settle }

/-- The width of units and their currency. -/
def unitsWidth (layout : PositionLayout) : Nat :=
  layout.units.width + 1 + layout.unitsCurrency

/-- The width of a cost, its braces included. -/
def costWidth (layout : PositionLayout) : Nat :=
  layout.cost.width + 1 + layout.costCurrency + 2

/-- The width of the field. Without a cost in the column there is no room for one. -/
def width (layout : PositionLayout) : Nat :=
  if layout.hasCost then layout.unitsWidth + 1 + layout.costWidth else layout.unitsWidth

/-- The cost of a position in braces, or as many spaces if it has none. -/
def formatCost (layout : PositionLayout) : Option Amount → String
  | none => Text.spaces layout.costWidth
  | some cost =>
      "\x7b" ++ layout.cost.format (some cost.number) ++ " " ++
        Text.fit cost.currency layout.costCurrency ++ "\x7d"

/-- The units of a position. -/
def formatUnits (layout : PositionLayout) (units : Amount) : String :=
  layout.units.format (some units.number) ++ " " ++ Text.fit units.currency layout.unitsCurrency

/-- The line that shows a position. -/
def format (layout : PositionLayout) (position : Position) : String :=
  if layout.hasCost then
    layout.formatUnits position.units ++ " " ++ layout.formatCost position.cost
  else layout.formatUnits position.units

end PositionLayout

end Tabular
