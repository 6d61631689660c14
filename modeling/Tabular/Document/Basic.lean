import Tabular.Json.Basic

/-!
A result document: the columns and rows of a table as they stand in JSON, before any of it is given
a type.
-/

namespace Tabular

/-- A column as a document declares it. -/
structure ColumnSpec where
  name : String
  type : String
  deriving DecidableEq, Repr

/-- The columns and rows of a document. -/
structure Document where
  columns : List ColumnSpec
  rows : List (List Json)

end Tabular
