import Tabular.Table.Assembly
import Tabular.Text.Width

/-!
The frame of a table: borders above and below, a rule above the body, and bars between the fields.
-/

namespace Tabular.Table

/-- How lines of text end. -/
inductive LineEnd where
  | lf
  | crlf
  deriving DecidableEq, Repr

/-- The characters that end a line. -/
def LineEnd.text : LineEnd → String
  | lf => "\n"
  | crlf => "\x0d\n"

/-- A horizontal line of the frame over columns of these widths, between two corners. -/
def border (left right : Char) (widths : List Nat) : String :=
  let dashes := widths.map fun width => String.ofList (List.replicate width '-')
  String.singleton left ++ "-" ++ String.intercalate "-+-" dashes ++ "-" ++ String.singleton right

/-- A field with spaces after it up to a width. A wider field stays as it is. -/
def pad (width : Nat) (field : String) : String :=
  field ++ Text.spaces (width - Text.width field)

/-- The fields of a line, brought to as many as there are widths: missing ones are empty, and those
beyond are left out. -/
def padFields : List Nat → Line → List String
  | [], _ => []
  | width :: widths, [] => pad width "" :: padFields widths []
  | width :: widths, field :: fields => pad width field :: padFields widths fields

/-- A line of the table with bars around its fields. -/
def barred (widths : List Nat) (fields : Line) : String :=
  "| " ++ String.intercalate " | " (padFields widths fields) ++ " |"

/-- The lines of a framed table without their ends. Column names stand between the upper border and
the rule. -/
def framed (widths : List Nat) (names : Option Line) (body : List Line) : List String :=
  [border ',' '.' widths] ++
    (names.toList.map (barred widths)) ++
    [border '+' '+' widths] ++
    body.map (barred widths) ++
    [border '\x60' '\'' widths]

/-- The text of lines that each end in `lineEnd`. -/
def joinLines (lineEnd : LineEnd) (lines : List String) : String :=
  String.join (lines.map (· ++ lineEnd.text))

end Tabular.Table
