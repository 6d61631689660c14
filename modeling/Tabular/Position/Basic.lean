import Tabular.Decimal.Basic

/-!
Amounts, positions and inventories: numbers of something, what one of it cost, and collections of
such holdings.
-/

namespace Tabular

/-- A number of units of a currency or commodity. -/
structure Amount where
  number : Decimal
  currency : String
  deriving DecidableEq, Repr

/-- Units that are held, with the cost of one where it is known. -/
structure Position where
  units : Amount
  cost : Option Amount
  deriving DecidableEq, Repr

/-- Positions in the order in which they were added. -/
structure Inventory where
  positions : List Position
  deriving DecidableEq, Repr

/-- The same currency and numbers of the same value. -/
def Amount.sameValue (a b : Amount) : Bool :=
  a.number.sameValue b.number && a.currency == b.currency

/-- The same units, and the same cost or none in both. -/
def Position.sameValue (p q : Position) : Bool :=
  p.units.sameValue q.units &&
    (match p.cost, q.cost with
    | none, none => true
    | some a, some b => a.sameValue b
    | _, _ => false)

namespace Inventory

/-- The inventory without positions. -/
def empty : Inventory := ⟨[]⟩

/-- The number of positions. -/
def size (inventory : Inventory) : Nat :=
  inventory.positions.length

/-- No position is held. -/
def isEmpty (inventory : Inventory) : Bool :=
  inventory.positions.isEmpty

/-- Add a position at the end. -/
def push (inventory : Inventory) (position : Position) : Inventory :=
  ⟨inventory.positions ++ [position]⟩

/-- The same number of positions, of the same values one after the other. -/
def sameValue (a b : Inventory) : Bool :=
  a.size == b.size && (a.positions.zip b.positions).all fun pair => pair.1.sameValue pair.2

@[simp] theorem positions_push (inventory : Inventory) (position : Position) :
    (inventory.push position).positions = inventory.positions ++ [position] :=
  rfl

@[simp] theorem positions_empty : empty.positions = [] :=
  rfl

end Inventory

end Tabular
