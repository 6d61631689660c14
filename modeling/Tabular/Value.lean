import Tabular.Date.Basic
import Tabular.Error
import Tabular.Position.Basic
import Tabular.Text.Blank

/-!
The values of a table's cells, and its columns and rows.
-/

namespace Tabular

/-- What a cell that is not empty holds. -/
inductive Value where
  | string (text : String)
  | date (day : Date)
  | decimal (number : Decimal)
  | position (held : Position)
  | inventory (held : Inventory)
  deriving DecidableEq, Repr

namespace Value

/-- The type of a value. -/
def type : Value → ValueType
  | string _ => .string
  | date _ => .date
  | decimal _ => .decimal
  | position _ => .position
  | inventory _ => .inventory

/-- The text, if the value is one. -/
def string? : Value → Option String
  | string text => some text
  | _ => none

/-- The date, if the value is one. -/
def date? : Value → Option Date
  | date day => some day
  | _ => none

/-- The number, if the value is one. -/
def decimal? : Value → Option Decimal
  | decimal number => some number
  | _ => none

/-- The position, if the value is one. -/
def position? : Value → Option Position
  | position held => some held
  | _ => none

/-- The inventory, if the value is one. -/
def inventory? : Value → Option Inventory
  | inventory held => some held
  | _ => none

/-- Values of one type and equal: numbers are compared by value, texts by their characters. -/
def sameValue : Value → Value → Bool
  | string a, string b => a == b
  | date a, date b => a == b
  | decimal a, decimal b => a.sameValue b
  | position a, position b => a.sameValue b
  | inventory a, inventory b => a.sameValue b
  | _, _ => false

end Value

/-- A cell of a table. `none` is an empty cell. -/
abbrev Cell := Option Value

/-- Two cells are both empty or hold equal values. -/
def Cell.sameValue : Cell → Cell → Bool
  | none, none => true
  | some a, some b => a.sameValue b
  | _, _ => false

/-- The name and the declared type of a column. -/
structure Column where
  name : String
  type : ValueType
  deriving DecidableEq, Repr

/-- A row of a table, one cell per column. -/
abbrev Row := List Cell

/-- Read the name of a type. Blanks around it and capital letters do not matter. -/
def ValueType.parse (text : String) : Except Error ValueType :=
  let word := String.ofList ((Text.trim text.toList).map Char.toLower)
  if word = "string" ∨ word = "str" then .ok .string
  else if word = "date" then .ok .date
  else if word = "decimal" ∨ word = "number" then .ok .decimal
  else if word = "position" then .ok .position
  else if word = "inventory" then .ok .inventory
  else failure (.unknownType word)

end Tabular
