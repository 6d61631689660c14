import Tabular.Table.Frame
import Tabular.Table.Layouts

/-!
Rendering a table as text: learn the layouts of its columns, assemble its lines, draw the frame.
-/

namespace Tabular.Table

/-- How a table is rendered. -/
structure Options where
  /-- show the names of the columns, and widen columns to hold their names -/
  showNames : Bool := false
  lineEnd : LineEnd := .lf
  deriving DecidableEq, Repr

/-- The width of a column in the frame. -/
def frameWidth (showNames : Bool) (layout : ColumnLayout) (column : Column) : Nat :=
  if showNames then max layout.width (Text.width column.name) else layout.width

/-- The lines of the rendered table without their ends. -/
def renderLines (options : Options) (columns : List Column) (rows : List Row) :
    Except Error (List String) := do
  let layouts ← layouts columns rows
  let body ← assemble layouts rows
  let widths := List.zipWith (frameWidth options.showNames) layouts columns
  let names := if options.showNames then some (columns.map Column.name) else none
  .ok (framed widths names body)

/-- The rendered table. It fails without any text if a row does not match the columns. -/
def render (options : Options) (columns : List Column) (rows : List Row) : Except Error String :=
  (renderLines options columns rows).map (joinLines options.lineEnd)

end Tabular.Table
