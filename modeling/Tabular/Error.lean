import Tabular.Date.Reader
import Tabular.Json.Cursor
import Tabular.ValueType

/-!
The errors of reading and rendering a table. An error has a cause and, where it concerns one cell,
the position of that cell; its message is made from the two.
-/

namespace Tabular

/-- A cell of a table: its row and its column, both counted from 0. -/
structure CellPosition where
  row : Nat
  column : Nat
  deriving DecidableEq, Repr

/-- The broad kind of an error. -/
inductive ErrorKind where
  /-- a row has another number of cells than there are columns -/
  | rowLength
  /-- a cell holds a value of another type than its column declares -/
  | typeMismatch
  /-- a text or a document does not denote what it should -/
  | parse
  /-- the rendered table could not be written -/
  | io
  deriving DecidableEq, Repr

/-- What went wrong. -/
inductive Cause where
  | rowLength (row found declared : Nat)
  | typeMismatch (declared found : ValueType)
  | unknownType (text : String)
  | invalidDecimal (text : String)
  | malformedAmount (text : String)
  | unterminatedCost (text : String)
  | invalidDate (text : String) (fault : Date.Fault)
  | missingNumber
  | missingCurrency
  | unreadable (json : String) (type : ValueType)
  | malformedDocument (fault : Json.Fault)
  | writeFailed (cause : String)
  /-- a cause from outside, of any kind and in any words -/
  | other (kind : ErrorKind) (words : String)
  deriving DecidableEq, Repr

namespace Cause

/-- The kind of error that a cause makes. -/
def kind : Cause → ErrorKind
  | rowLength .. => .rowLength
  | typeMismatch .. => .typeMismatch
  | writeFailed _ => .io
  | other kind _ => kind
  | _ => .parse

/-- The words for a cause. -/
def message : Cause → String
  | rowLength row found declared =>
      "row " ++ toString row ++ " has " ++ toString found ++ " cells but " ++ toString declared ++
        " columns are declared"
  | typeMismatch declared found =>
      "expected a " ++ declared.name ++ " value, found a " ++ found.name ++ " value"
  | unknownType text => "unknown column type '" ++ text ++ "'"
  | invalidDecimal text => "invalid or unrepresentable decimal number '" ++ text ++ "'"
  | malformedAmount text => "expected '<number> <currency>', found '" ++ text ++ "'"
  | unterminatedCost text => "unterminated cost in '" ++ text ++ "'"
  | invalidDate text fault => "invalid date '" ++ text ++ "': " ++ fault.message
  | missingNumber => "amount is missing 'number'"
  | missingCurrency => "amount is missing 'currency'"
  | unreadable json type => "cannot read " ++ json ++ " as a " ++ type.name ++ " value"
  | malformedDocument fault => "invalid result document: " ++ fault.message
  | writeFailed cause => "write failed: " ++ cause
  | other _ words => words

end Cause

/-- An error: its cause and, where it concerns one cell, that cell's position. -/
structure Error where
  cause : Cause
  position : Option CellPosition := none
  deriving DecidableEq, Repr

namespace Error

/-- The kind of the error. -/
def kind (e : Error) : ErrorKind :=
  e.cause.kind

/-- The words for the cause, followed by the cell's position if there is one. -/
def message (e : Error) : String :=
  match e.position with
  | none => e.cause.message
  | some position =>
      e.cause.message ++ " at row=" ++ toString position.row ++ ", col=" ++
        toString position.column

/-- Attach the position of a cell. An error that has a position keeps it. -/
def «at» (e : Error) (position : CellPosition) : Error :=
  match e.position with
  | none => { e with position := some position }
  | some _ => e

@[simp] theorem cause_at (e : Error) (position : CellPosition) :
    (e.at position).cause = e.cause := by
  unfold Error.at
  split <;> rfl

theorem position_at_of_none {e : Error} (h : e.position = none) (position : CellPosition) :
    (e.at position).position = some position := by
  simp [Error.at, h]

theorem at_of_some {e : Error} {position : CellPosition} (h : e.position = some position)
    (other : CellPosition) : e.at other = e := by
  simp [Error.at, h]

end Error

/-- Fail for a cause that concerns no cell in particular. -/
def failure {α : Type} (cause : Cause) : Except Error α :=
  .error { cause }

/-- Attach a cell's position to whatever error an outcome is. -/
def atCell {α : Type} (row column : Nat) (outcome : Except Error α) : Except Error α :=
  outcome.mapError (·.at ⟨row, column⟩)

@[simp] theorem atCell_ok {α : Type} (row column : Nat) (a : α) :
    atCell row column (.ok a) = .ok a :=
  rfl

@[simp] theorem atCell_error {α : Type} (row column : Nat) (e : Error) :
    atCell row column (.error e : Except Error α) = .error (e.at ⟨row, column⟩) :=
  rfl

end Tabular
