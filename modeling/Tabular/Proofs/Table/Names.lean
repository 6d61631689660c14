import Mathlib
import Tabular.Proofs.Table.Rectangle

/-!
What it changes in a table to show the names of its columns. One line is added below the upper
border. Every other line stays as it is, or gets room in the columns that are narrower than their
names: dashes in a border, spaces in a row, always at the right end of the column's field.
-/

namespace Tabular.Table

/-- A line of the frame with these fields. -/
def lineOf (left between right : String) (fields : Line) : String :=
  left ++ String.intercalate between fields ++ right

/-- Fields that are each followed by so many characters more. -/
def lengthen (c : Char) (extra : List Nat) (fields : Line) : Line :=
  List.zipWith (fun count field => field ++ String.ofList (List.replicate count c)) extra fields

/-- The second line is the first, whose fields have these widths, with so many characters more at
the right end of each field: dashes in a border, spaces in a row. -/
inductive Widened (widths extra : List Nat) : String → String → Prop where
  | border {left right : Char} {fields : Line} (hWidths : fields.map Text.width = widths) :
      Widened widths extra
        (lineOf (String.ofList [left, '-']) "-+-" (String.ofList ['-', right]) fields)
        (lineOf (String.ofList [left, '-']) "-+-" (String.ofList ['-', right])
          (lengthen '-' extra fields))
  | row {fields : Line} (hWidths : fields.map Text.width = widths) :
      Widened widths extra (lineOf "| " " | " " |" fields)
        (lineOf "| " " | " " |" (lengthen ' ' extra fields))

/-- The room that the columns lack for their names. -/
def lackingRoom (layouts : List ColumnLayout) (columns : List Column) : List Nat :=
  List.zipWith (fun layout column => Text.width column.name - layout.width) layouts columns

theorem border_eq_lineOf (left right : Char) (widths : List Nat) :
    border left right widths =
      lineOf (String.ofList [left, '-']) "-+-" (String.ofList ['-', right]) (dashes widths) := by
  apply String.toList_injective
  simp [toList_border, lineOf]

theorem barred_eq_lineOf (widths : List Nat) (fields : Line) :
    barred widths fields = lineOf "| " " | " " |" (padFields widths fields) :=
  rfl

theorem dashes_add (widths extra : List Nat) :
    dashes (List.zipWith (· + ·) widths extra) = lengthen '-' extra (dashes widths) := by
  induction widths generalizing extra with
  | nil => cases extra <;> rfl
  | cons width widths ih =>
      cases extra with
      | nil => rfl
      | cons count extra =>
          have hFirst : String.ofList (List.replicate (width + count) '-') =
              String.ofList (List.replicate width '-') ++
                String.ofList (List.replicate count '-') := by
            rw [← String.ofList_append, List.replicate_append_replicate]
          rw [List.zipWith_cons_cons, dashes, List.map_cons, ← dashes, ih, hFirst]
          rfl

/-- A border over wider columns. -/
theorem widened_border (left right : Char) (widths extra : List Nat) :
    Widened widths extra (border left right widths)
      (border left right (List.zipWith (· + ·) widths extra)) := by
  rw [border_eq_lineOf, border_eq_lineOf, dashes_add]
  exact .border (map_width_dashes widths)

/-- Padding a field beyond its own width puts the rest behind it. -/
theorem pad_add (field : String) (count : Nat) :
    pad (Text.width field + count) field = field ++ String.ofList (List.replicate count ' ') := by
  rw [pad, Nat.add_sub_cancel_left]
  rfl

/-- Fields that fill their columns are lengthened by what the columns have more. -/
theorem padFields_add (fields : Line) (extra : List Nat) :
    padFields (List.zipWith (· + ·) (fields.map Text.width) extra) fields =
      lengthen ' ' extra fields := by
  induction fields generalizing extra with
  | nil => cases extra <;> rfl
  | cons field fields ih =>
      cases extra with
      | nil => rfl
      | cons count extra =>
          rw [List.map_cons, List.zipWith_cons_cons, padFields, pad_add, ih]
          rfl

theorem padFields_map_width (fields : Line) : padFields (fields.map Text.width) fields = fields := by
  induction fields with
  | nil => rfl
  | cons field fields ih =>
      have hPad := pad_add field 0
      rw [List.map_cons, padFields, ih]
      simpa using hPad

/-- A row whose fields fill their columns, in wider columns. -/
theorem widened_barred {widths : List Nat} {fields : Line} (h : fields.map Text.width = widths)
    (extra : List Nat) :
    Widened widths extra (barred widths fields)
      (barred (List.zipWith (· + ·) widths extra) fields) := by
  subst h
  rw [barred_eq_lineOf, barred_eq_lineOf, padFields_map_width, padFields_add]
  exact .row rfl

/-- A frame without names over wider columns: line by line it is only widened. -/
theorem forall₂_widened_framed {widths : List Nat} {body : List Line}
    (h : ∀ fields ∈ body, fields.map Text.width = widths) (extra : List Nat) :
    List.Forall₂ (Widened widths extra) (framed widths none body)
      (framed (List.zipWith (· + ·) widths extra) none body) := by
  have hBody : List.Forall₂ (Widened widths extra) (body.map (barred widths))
      (body.map (barred (List.zipWith (· + ·) widths extra))) := by
    rw [List.forall₂_map_left_iff, List.forall₂_map_right_iff, List.forall₂_same]
    intro fields hFields
    exact widened_barred (h fields hFields) extra
  have hLower : List.Forall₂ (Widened widths extra) [border '\x60' '\'' widths]
      [border '\x60' '\'' (List.zipWith (· + ·) widths extra)] :=
    .cons (widened_border _ _ widths extra) .nil
  exact .cons (widened_border _ _ widths extra)
    (.cons (widened_border _ _ widths extra) (List.rel_append hBody hLower))

section
variable {layouts : List ColumnLayout} {columns : List Column}
  (hLength : layouts.length = columns.length)
include hLength

theorem frameWidths_false : frameWidths false layouts columns = layouts.map ColumnLayout.width := by
  induction layouts generalizing columns with
  | nil => rfl
  | cons layout layouts ih =>
      cases columns with
      | nil => cases hLength
      | cons column columns =>
          rw [frameWidths, List.zipWith_cons_cons, ← frameWidths, ih (Nat.succ.inj hLength)]
          rfl

/-- With names, the columns have their own widths and the room that they lack for the names. -/
theorem frameWidths_true :
    frameWidths true layouts columns =
      List.zipWith (· + ·) (layouts.map ColumnLayout.width) (lackingRoom layouts columns) := by
  induction layouts generalizing columns with
  | nil => rfl
  | cons layout layouts ih =>
      cases columns with
      | nil => cases hLength
      | cons column columns =>
          have hFirst : frameWidth true layout column =
              layout.width + (Text.width column.name - layout.width) := by
            rw [frameWidth, if_pos rfl]
            omega
          rw [frameWidths, List.zipWith_cons_cons, ← frameWidths, ih (Nat.succ.inj hLength), hFirst]
          rfl

/-- A name is followed by what its column is wider than it. -/
theorem padFields_names :
    padFields (frameWidths true layouts columns) (columns.map Column.name) =
      List.zipWith
        (fun layout column => column.name ++ Text.spaces (layout.width - Text.width column.name))
        layouts columns := by
  induction layouts generalizing columns with
  | nil =>
      obtain rfl : columns = [] := List.length_eq_zero_iff.mp hLength.symm
      rfl
  | cons layout layouts ih =>
      cases columns with
      | nil => cases hLength
      | cons column columns =>
          have hRoom : max layout.width (Text.width column.name) - Text.width column.name =
              layout.width - Text.width column.name := by omega
          have hRest := ih (Nat.succ.inj hLength)
          rw [frameWidths] at hRest
          rw [frameWidths, List.zipWith_cons_cons, List.map_cons, padFields, hRest, pad,
            frameWidth, if_pos rfl, hRoom]
          rfl

/-- Columns that are all as wide as their names lack no room. -/
theorem frameWidths_true_of_le
    (h : List.Forall₂ (fun layout column => Text.width (Column.name column) ≤
      ColumnLayout.width layout) layouts columns) :
    frameWidths true layouts columns = frameWidths false layouts columns := by
  induction h with
  | nil => rfl
  | @cons layout column layouts columns hFits hRest ih =>
      have hFirst : frameWidth true layout column = layout.width := Nat.max_eq_left hFits
      rw [frameWidths, frameWidths, List.zipWith_cons_cons, List.zipWith_cons_cons, hFirst,
        ← frameWidths, ← frameWidths, ih (Nat.succ.inj hLength)]
      rfl

end

/-- The fields of a row that the layouts hold fill their columns. -/
theorem map_width_rowLine {layouts : List ColumnLayout} {row : Row}
    (h : List.Forall₂ ColumnLayout.Holds layouts row) (index : Nat) :
    (rowLine layouts row index).map Text.width = layouts.map ColumnLayout.width := by
  induction h with
  | nil => rfl
  | @cons layout cell layouts row hCell hRest ih =>
      rw [rowLine] at ih
      rw [rowLine, List.zipWith_cons_cons, List.map_cons, List.map_cons, ih,
        ColumnLayout.width_fieldAt hCell.isSettled hCell.seen]

/-- The table consists of these lines, whatever ends them. -/
def RendersTo (showNames : Bool) (columns : List Column) (rows : List Row) (lines : List String) :
    Prop :=
  ∀ lineEnd, renderLines ⟨showNames, lineEnd⟩ columns rows = .ok lines ∧
    render ⟨showNames, lineEnd⟩ columns rows = .ok (joinLines lineEnd lines)

end Tabular.Table
