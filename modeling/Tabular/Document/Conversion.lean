import Tabular.Document.Reader
import Tabular.Json.Printer
import Tabular.Position.Reader
import Tabular.Value

/-!
Giving the cells of a document the types that their columns declare.
-/

namespace Tabular

/-- A JSON value stands where a value of some type is needed and cannot be read as one. -/
def unreadable {α : Type} (json : Json) (type : ValueType) : Except Error α :=
  failure (.unreadable json.text type)

namespace Json

/-- The text of a string, needed for a value of the given type. -/
def toText (json : Json) (type : ValueType) : Except Error String :=
  match json with
  | string text => .ok text
  | json => unreadable json type

/-- The text of a number, which may be given as a string so that it can be written in any way. -/
def toNumberText (json : Json) : Except Error String :=
  match json with
  | string text => .ok text
  | number literal => .ok literal
  | json => unreadable json .decimal

/-- A decimal number from a string or a number, whose digits all count. -/
def toDecimal (json : Json) : Except Error Decimal := do
  Decimal.parse (← json.toNumberText)

/-- A date from a string. -/
def toDate (json : Json) : Except Error Date := do
  let text ← json.toText .date
  match Date.ofChars text.toList with
  | .ok date => .ok date
  | .error fault => failure (.invalidDate text fault)

/-- An amount from its members `number` and `currency`. Both must be there before the number is
read. -/
def toAmountOfMembers (json : Json) : Except Error Amount :=
  match json.member? "number" with
  | none => failure .missingNumber
  | some digits =>
      match (json.member? "currency").bind string? with
      | none => failure .missingCurrency
      | some currency => do .ok ⟨← digits.toDecimal, currency⟩

/-- An amount from a string or from its members. -/
def toAmount : Json → Except Error Amount
  | string text => Amount.parse text
  | json => json.toAmountOfMembers

/-- What a position cost, from its member `cost`. It may be absent or null. -/
def toCost (json : Json) : Except Error (Option Amount) :=
  match json.member? "cost" with
  | none => .ok none
  | some null => .ok none
  | some cost => do .ok (some (← cost.toAmount))

/-- A position from a string, or from an object with the members of its units and its cost. -/
def toPosition (json : Json) : Except Error Position :=
  match json with
  | string text => Position.parse text
  | object _ => do
      let units ← json.toAmount
      .ok ⟨units, ← json.toCost⟩
  | json => unreadable json .position

/-- An inventory from a string or from an array of positions. -/
def toInventory : Json → Except Error Inventory
  | string text => Inventory.parse text
  | array elements => do .ok ⟨← elements.mapM toPosition⟩
  | json => unreadable json .inventory

/-- A value of the given type. -/
def toValue (json : Json) : ValueType → Except Error Value
  | .string => do .ok (.string (← json.toText .string))
  | .date => do .ok (.date (← json.toDate))
  | .decimal => do .ok (.decimal (← json.toDecimal))
  | .position => do .ok (.position (← json.toPosition))
  | .inventory => do .ok (.inventory (← json.toInventory))

/-- A cell of a column of the given type. Null is the empty cell. -/
def toCell (json : Json) (type : ValueType) : Except Error Cell :=
  match json with
  | null => .ok none
  | json => do .ok (some (← json.toValue type))

end Json

namespace Document

/-- A column of the table. -/
def toColumn (spec : ColumnSpec) : Except Error Column := do
  .ok ⟨spec.name, ← ValueType.parse spec.type⟩

/-- The cells of a row from a column on, from the left. -/
def toCells (rowIndex : Nat) : Nat → List Column → List Json → Except Error Row
  | index, column :: columns, json :: rest => do
      let cell ← atCell rowIndex index (json.toCell column.type)
      .ok (cell :: (← toCells rowIndex (index + 1) columns rest))
  | _, _, _ => .ok []

/-- A row of the table. It must have one cell per column. -/
def toRow (columns : List Column) (rowIndex : Nat) (row : List Json) : Except Error Row :=
  if row.length = columns.length then toCells rowIndex 0 columns row
  else failure (.rowLength rowIndex row.length columns.length)

/-- The rows of the table, counted from `index`. -/
def toRows (columns : List Column) : Nat → List (List Json) → Except Error (List Row)
  | _, [] => .ok []
  | index, row :: rows => do
      let row ← toRow columns index row
      .ok (row :: (← toRows columns (index + 1) rows))

/-- The columns and rows of the table in a document. The first fault is reported: of the columns
from the left, then of the rows from the top, where the length of a row comes before its cells. -/
def toTable (document : Document) : Except Error (List Column × List Row) := do
  let columns ← document.columns.mapM toColumn
  .ok (columns, ← toRows columns 0 document.rows)

/-- Read the table of a document that is the whole text. -/
def parseTable (text : String) : Except Error (List Column × List Row) :=
  match parse text with
  | .ok document => document.toTable
  | .error fault => failure (.malformedDocument fault)

end Document

end Tabular
