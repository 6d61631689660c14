import Tabular.Decimal.Printer
import Tabular.Text.Blank

/-!
The layout of a column of numbers that are aligned on their decimal point. The layout is learned
from the numbers: first every number is observed, then the layout is settled, then every number is
formatted. No digit of a number is ever dropped; the numbers are brought to one number of fractional
digits by adding zeros.
-/

namespace Tabular

/-- What a collection of numbers demands of the field that shows them. -/
structure Extent where
  /-- some number has a minus sign -/
  negative : Bool := false
  /-- the most digits before a point -/
  wholeDigits : Nat := 1
  /-- the most digits after a point -/
  places : Nat := 0
  deriving DecidableEq, Repr

namespace Extent

/-- What no numbers demand: room for one digit. -/
def least : Extent := {}

/-- What one number demands. -/
def ofDecimal (d : Decimal) : Extent :=
  ⟨d.negative, d.wholeDigits.length, d.scale⟩

/-- What two collections demand together. -/
def join (a b : Extent) : Extent :=
  ⟨a.negative || b.negative, max a.wholeDigits b.wholeDigits, max a.places b.places⟩

/-- The width of the field: sign, whole digits, point and fractional digits. -/
def width (e : Extent) : Nat :=
  (if e.negative then 1 else 0) + e.wholeDigits + (if 0 < e.places then 1 else 0) + e.places

theorem join_comm (a b : Extent) : a.join b = b.join a := by
  simp [join, Bool.or_comm, Nat.max_comm]

theorem join_assoc (a b c : Extent) : (a.join b).join c = a.join (b.join c) := by
  simp [join, Bool.or_assoc, Nat.max_assoc]

theorem join_self (a : Extent) : a.join a = a := by
  simp [join]

end Extent

/-- A layout of numbers: what has been observed, and what was when the layout was settled last. Only
settling changes the field, save that `observed` is known at once. -/
structure NumberLayout where
  observed : Extent := {}
  settled : Extent := {}
  deriving DecidableEq, Repr

namespace NumberLayout

/-- The layout before any number is observed. -/
def empty : NumberLayout := {}

/-- Observe a number. An absent one demands nothing. -/
def observe (layout : NumberLayout) : Option Decimal → NumberLayout
  | none => layout
  | some d => { layout with observed := layout.observed.join (Extent.ofDecimal d) }

/-- Settle the layout for the numbers observed so far. -/
def settle (layout : NumberLayout) : NumberLayout :=
  { layout with settled := layout.observed }

/-- Some number observed has a minus sign. -/
def hasNegative (layout : NumberLayout) : Bool :=
  layout.observed.negative

/-- The digits before the point in the settled layout. -/
def wholeDigits (layout : NumberLayout) : Nat :=
  layout.settled.wholeDigits

/-- The digits after the point in the settled layout. -/
def places (layout : NumberLayout) : Nat :=
  layout.settled.places

/-- The width of the settled field. -/
def width (layout : NumberLayout) : Nat :=
  layout.settled.width

/-- A number at the right end of its field. One that the layout has no room for takes more. An
absent number leaves the field blank. -/
def chars (layout : NumberLayout) : Option Decimal → List Char
  | none => List.replicate layout.width ' '
  | some d => (d.charsTo layout.places).leftpad layout.width ' '

/-- A number or blanks in the settled field. -/
def format (layout : NumberLayout) (number : Option Decimal) : String :=
  String.ofList (layout.chars number)

@[simp] theorem toList_format (layout : NumberLayout) (number : Option Decimal) :
    (layout.format number).toList = layout.chars number := by
  simp [format]

@[simp] theorem settle_observed (layout : NumberLayout) :
    layout.settle.observed = layout.observed :=
  rfl

@[simp] theorem settle_settled (layout : NumberLayout) :
    layout.settle.settled = layout.observed :=
  rfl

end NumberLayout

end Tabular
