/-!
The types that a column of a table can have.
-/

namespace Tabular

/-- The declared type of a column. Every cell of the column is empty or holds a value of it. -/
inductive ValueType where
  /-- free text, at the left of its field -/
  | string
  /-- a calendar date -/
  | date
  /-- an exact number, aligned on its decimal point -/
  | decimal
  /-- units of something, with the cost of one where it is known -/
  | position
  /-- any number of positions, one line each -/
  | inventory
  deriving DecidableEq, Repr

namespace ValueType

/-- The name of a type in messages and answers. -/
def name : ValueType → String
  | string => "string"
  | date => "date"
  | decimal => "decimal"
  | position => "position"
  | inventory => "inventory"

end ValueType

end Tabular
