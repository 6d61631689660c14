import Tabular.Proofs.Table.Frame
import Tabular.Proofs.Table.Learning
import Tabular.Table.Render

/-!
The body of a rendered table. Each row gives one block of lines, in the order of the rows: as many
lines as the largest of its inventories has positions, but at least one.
-/

namespace Tabular.Table

/-- The number of lines that a row takes. -/
def rowHeight (row : Row) : Nat :=
  (row.map fun cell => cell.positions.length).foldl max 1

/-- The fields of a row in the line with this index. -/
def rowLine (layouts : List ColumnLayout) (row : Row) (index : Nat) : Line :=
  List.zipWith (fun layout cell => layout.fieldAt cell index) layouts row

/-- The lines of a row. -/
def rowLines (layouts : List ColumnLayout) (row : Row) : List Line :=
  (List.range (rowHeight row)).map (rowLine layouts row)

/-- The assembly of rows in which none is recognized as having only one line. -/
def stackFrom (layouts : List ColumnLayout) : Nat → List Row → Except Error (List Line)
  | _, [] => .ok []
  | index, row :: rows => do
      let cells ← formatCells index 0 layouts row
      let lines ← stackFrom layouts (index + 1) rows
      .ok (stack cells ++ lines)

/-- The first line of each cell is the only line that cells of one line have. -/
theorem expand_eq_stack (cells : List (ColumnLayout × Block)) : expand cells = stack cells := by
  rw [expand]
  split
  · next hOne =>
    rw [stack, hOne]
    rfl
  · rfl

theorem assembleFrom_eq_stackFrom (layouts : List ColumnLayout) (index : Nat) (rows : List Row) :
    assembleFrom layouts index rows = stackFrom layouts index rows := by
  induction rows generalizing index with
  | nil => rfl
  | cons row rows ih => simp only [assembleFrom, stackFrom, expand_eq_stack, ih]

/-- To begin a maximum with one is to raise every number to one first. -/
theorem foldl_max_raised {counts : List Nat} {least : Nat} (h : 1 ≤ least) :
    (counts.map (max 1)).foldl max least = counts.foldl max least := by
  induction counts generalizing least with
  | nil => rfl
  | cons count counts ih =>
      rw [List.map_cons, List.foldl_cons, List.foldl_cons, ← Nat.max_assoc, Nat.max_eq_left h]
      exact ih (Nat.le_trans h (Nat.le_max_left _ _))

theorem le_foldl_max {counts : List Nat} {least n : Nat} (h : n ≤ least ∨ n ∈ counts) :
    n ≤ counts.foldl max least := by
  induction counts generalizing least with
  | nil => simpa using h
  | cons count counts ih =>
      rw [List.foldl_cons]
      apply ih
      rcases h with hLeast | hMem
      · exact Or.inl (Nat.le_trans hLeast (Nat.le_max_left _ _))
      · rcases List.mem_cons.mp hMem with rfl | hRest
        · exact Or.inl (Nat.le_max_right _ _)
        · exact Or.inr hRest

/-- A row has a line for each of its positions, and one if it has none. -/
theorem max_one_le_rowHeight {row : Row} {cell : Cell} (h : cell ∈ row) :
    max 1 cell.positions.length ≤ rowHeight row := by
  refine Nat.max_le.mpr ⟨le_foldl_max (Or.inl (Nat.le_refl 1)), le_foldl_max (Or.inr ?_)⟩
  exact List.mem_map.mpr ⟨cell, h, rfl⟩

/-- The cells of a row that fits are formatted one by one. -/
theorem formatCells_of_fits {layouts : List ColumnLayout} {row : Row} (h : Fits layouts row)
    (rowIndex index : Nat) :
    ∃ cells, formatCells rowIndex index layouts row = .ok cells ∧
      (cells.map fun cell => cell.2.height) =
        (row.map fun cell => cell.positions.length).map (max 1) ∧
      ∀ line, cells.map (field line) = rowLine layouts row line := by
  induction h generalizing index with
  | nil => exact ⟨[], rfl, rfl, fun _ => rfl⟩
  | @cons layout cell layouts row hCell hRest ih =>
      obtain ⟨block, hFormat, hHeight, hField⟩ := ColumnLayout.format_of_hasType hCell
      obtain ⟨cells, hCells, hHeights, hFields⟩ := ih (index + 1)
      refine ⟨(layout, block) :: cells, ?_, ?_, ?_⟩
      · rw [formatCells, hFormat, atCell_ok, hCells]
        rfl
      · rw [List.map_cons, List.map_cons, List.map_cons, hHeights, hHeight]
      · intro line
        rw [List.map_cons, hFields, rowLine, rowLine, List.zipWith_cons_cons, ← hField]
        rfl

/-- The cells of a row that fits expand to its lines. -/
theorem expand_of_fits {layouts : List ColumnLayout} {row : Row} (h : Fits layouts row)
    (rowIndex index : Nat) :
    ∃ cells, formatCells rowIndex index layouts row = .ok cells ∧
      expand cells = rowLines layouts row := by
  obtain ⟨cells, hCells, hHeights, hFields⟩ := formatCells_of_fits h rowIndex index
  refine ⟨cells, hCells, ?_⟩
  rw [expand_eq_stack, stack, height, hHeights, foldl_max_raised (Nat.le_refl 1), rowLines]
  exact List.map_congr_left fun line _ => hFields line

/-- The assembly of rows that fit is the blocks of their lines, one after the other. -/
theorem assembleFrom_of_fits {layouts : List ColumnLayout} {rows : List Row}
    (h : ∀ row ∈ rows, Fits layouts row) (index : Nat) :
    assembleFrom layouts index rows = .ok (rows.flatMap (rowLines layouts)) := by
  induction rows generalizing index with
  | nil => rfl
  | cons row rows ih =>
      obtain ⟨hHead, hTail⟩ := List.forall_mem_cons.mp h
      obtain ⟨cells, hCells, hLines⟩ := expand_of_fits hHead index 0
      rw [assembleFrom, hCells, ih hTail (index + 1), List.flatMap_cons, ← hLines]
      rfl

/-- The widths of the columns in the frame. -/
def frameWidths (showNames : Bool) (layouts : List ColumnLayout) (columns : List Column) :
    List Nat :=
  List.zipWith (frameWidth showNames) layouts columns

theorem length_frameWidths {showNames : Bool} {layouts : List ColumnLayout}
    {columns : List Column} (h : layouts.length = columns.length) :
    (frameWidths showNames layouts columns).length = columns.length := by
  rw [frameWidths, List.length_zipWith, h, Nat.min_self]

/-- The names above the rule, if they are shown. -/
def shownNames (showNames : Bool) (columns : List Column) : Option Line :=
  if showNames then some (columns.map Column.name) else none

/-- The lines of a table whose columns have these layouts. -/
def tableLines (showNames : Bool) (layouts : List ColumnLayout) (columns : List Column)
    (rows : List Row) : List String :=
  framed (frameWidths showNames layouts columns) (shownNames showNames columns)
    (rows.flatMap (rowLines layouts))

/-- The line of a row stands behind the lines of the rows above it. -/
theorem getElem?_flatMap_rowLines {layouts : List ColumnLayout} {rows : List Row} {place : Nat}
    {row : Row} (hRow : rows[place]? = some row) {index : Nat} (hIndex : index < rowHeight row) :
    (rows.flatMap (rowLines layouts))[((rows.take place).map rowHeight).sum + index]? =
      some (rowLine layouts row index) := by
  have hHeights : ((rows.map (rowLines layouts)).map List.length).take place =
      (rows.take place).map rowHeight := by
    simp [rowLines, Function.comp_def]
  obtain ⟨hPlace, rfl⟩ := List.getElem?_eq_some_iff.mp hRow
  have hDrop := List.drop_sum_flatten (rows.map (rowLines layouts)) place
  rw [hHeights, ← List.flatMap_def, ← List.map_drop, List.drop_eq_getElem_cons hPlace,
    List.map_cons, List.flatten_cons] at hDrop
  rw [← List.getElem?_drop, hDrop, List.getElem?_append_left (by simpa [rowLines] using hIndex)]
  simp [rowLines, hIndex]

/-- The body begins behind the upper border, the names and the rule. -/
theorem getElem?_framed {widths : List Nat} {names : Option Line} {body : List Line}
    {fields : Line} {index : Nat} (h : body[index]? = some fields) :
    (framed widths names body)[2 + names.toList.length + index]? = some (barred widths fields) := by
  obtain ⟨hIndex, -⟩ := List.getElem?_eq_some_iff.mp h
  have hFront : ([border ',' '.' widths] ++ names.toList.map (barred widths) ++
      [border '+' '+' widths]).length = 2 + names.toList.length := by
    simp only [List.length_append, List.length_map, List.length_singleton]
    omega
  have hBody : 2 + names.toList.length + index < ([border ',' '.' widths] ++
      names.toList.map (barred widths) ++ [border '+' '+' widths] ++
        body.map (barred widths)).length := by
    rw [List.length_append, hFront, List.length_map]
    omega
  rw [framed, List.getElem?_append_left hBody, List.getElem?_append_right (by omega), hFront,
    Nat.add_sub_cancel_left, List.getElem?_map, h, Option.map_some]

/-- The place of a row's line among the lines of the table. -/
def lineIndex (showNames : Bool) (rows : List Row) (place index : Nat) : Nat :=
  (if showNames then 3 else 2) + (((rows.take place).map rowHeight).sum + index)

theorem getElem?_tableLines (showNames : Bool) (layouts : List ColumnLayout) (columns : List Column)
    {rows : List Row} {place : Nat} {row : Row} (hRow : rows[place]? = some row) {index : Nat}
    (hIndex : index < rowHeight row) :
    (tableLines showNames layouts columns rows)[lineIndex showNames rows place index]? =
      some (barred (frameWidths showNames layouts columns) (rowLine layouts row index)) := by
  have hStart :
      (if showNames then 3 else 2) = 2 + (shownNames showNames columns).toList.length := by
    cases showNames <;> rfl
  rw [tableLines, lineIndex, hStart]
  exact getElem?_framed (getElem?_flatMap_rowLines hRow hIndex)

theorem joinLines_framed_ne_empty (lineEnd : LineEnd) (widths : List Nat) (names : Option Line)
    (body : List Line) : joinLines lineEnd (framed widths names body) ≠ "" := by
  intro h
  have hChars := congrArg String.toList h
  simp [joinLines, framed, border, String.join_cons] at hChars

/-- Valid rows are rendered. The layouts hold all of their cells, and the lines of the rows stand in
the frame in the order of the rows. -/
theorem renderLines_of_validate {columns : List Column} {rows : List Row}
    (h : validate columns rows = .ok ()) :
    ∃ layouts, Table.layouts columns rows = .ok layouts ∧ layouts.length = columns.length ∧
      (∀ row ∈ rows, List.Forall₂ ColumnLayout.Holds layouts row) ∧
      ∀ options : Options, renderLines options columns rows =
        .ok (tableLines options.showNames layouts columns rows) := by
  have hLayouts := layouts_of_validate h
  refine ⟨_, hLayouts, List.length_mapIdx, fun row hRow => forall₂_holds h hLayouts hRow, ?_⟩
  intro options
  have hFits : ∀ row ∈ rows, Fits _ row := fun row hRow =>
    (forall₂_holds h hLayouts hRow).imp fun _ _ hCell => hCell.hasType
  rw [renderLines, hLayouts]
  show assembleFrom _ 0 rows >>= _ = _
  rw [assembleFrom_of_fits hFits]
  rfl

theorem render_of_validate {columns : List Column} {rows : List Row}
    (h : validate columns rows = .ok ()) :
    ∃ layouts, Table.layouts columns rows = .ok layouts ∧ layouts.length = columns.length ∧
      (∀ row ∈ rows, List.Forall₂ ColumnLayout.Holds layouts row) ∧
      ∀ options : Options, render options columns rows =
        .ok (joinLines options.lineEnd (tableLines options.showNames layouts columns rows)) := by
  obtain ⟨layouts, hLayouts, hLength, hHolds, hLines⟩ := renderLines_of_validate h
  refine ⟨layouts, hLayouts, hLength, hHolds, fun options => ?_⟩
  rw [render, hLines]
  rfl

/-- The lines of a row in the columns of these layouts, which are `widths` wide in the frame. -/
structure Expands (layouts : List ColumnLayout) (widths : List Nat) (row : Row)
    (lines : List Line) : Prop where
  /-- there are as many as the largest inventory has positions, but at least one -/
  height : lines.length = rowHeight row
  /-- they have a field per column, which is padded to the width of the column -/
  padded : ∀ fields ∈ lines, fields.length = row.length ∧
    padFields widths fields = List.zipWith pad widths fields
  /-- a line of this index shows the position of this index, the first all of a cell without any -/
  field : ∀ (index : Nat) (fields : Line), lines[index]? = some fields →
    ∀ (column : Nat) (layout : ColumnLayout) (cell : Cell),
      layouts[column]? = some layout → row[column]? = some cell →
        fields[column]? = some (layout.fieldAt cell index)
  /-- a column is the lines of its cell from the top, and then blanks -/
  downward : ∀ (column : Nat) (layout : ColumnLayout) (cell : Cell),
    layouts[column]? = some layout → row[column]? = some cell →
      ∃ block, layout.format cell = .ok block ∧
        lines.map (fun fields => fields[column]?) =
          (block.lines.rightpad (rowHeight row) (Text.spaces layout.width)).map some

theorem getElem?_rowLine {layouts : List ColumnLayout} {row : Row} {column : Nat}
    {layout : ColumnLayout} {cell : Cell} (hLayout : layouts[column]? = some layout)
    (hCell : row[column]? = some cell) (index : Nat) :
    (rowLine layouts row index)[column]? = some (layout.fieldAt cell index) := by
  rw [rowLine, List.getElem?_zipWith, hLayout, hCell]

theorem expands_rowLines {layouts : List ColumnLayout} {widths : List Nat} {row : Row}
    (hFits : Fits layouts row) (hWidths : widths.length = layouts.length) :
    Expands layouts widths row (rowLines layouts row) where
  height := by rw [rowLines, List.length_map, List.length_range]
  padded := by
    intro fields hFields
    obtain ⟨index, -, rfl⟩ := List.mem_map.mp hFields
    have hLength : (rowLine layouts row index).length = row.length := by
      rw [rowLine, List.length_zipWith, hFits.length_eq, Nat.min_self]
    refine ⟨hLength, padFields_eq_zipWith ?_⟩
    rw [hWidths, hLength, hFits.length_eq]
  field := by
    intro index fields hFields column layout cell hLayout hCell
    rw [rowLines, List.getElem?_map] at hFields
    obtain ⟨k, hIndex, rfl⟩ := Option.map_eq_some_iff.mp hFields
    obtain rfl : index = k := by simpa using (List.getElem?_eq_some_iff.mp hIndex).2
    exact getElem?_rowLine hLayout hCell index
  downward := by
    intro column layout cell hLayout hCell
    have hType : cell.HasType layout.type := by
      have hAll := List.forall₂_iff_get.mp hFits
      obtain ⟨hLeft, rfl⟩ := List.getElem?_eq_some_iff.mp hLayout
      obtain ⟨hRight, rfl⟩ := List.getElem?_eq_some_iff.mp hCell
      exact hAll.2 column hLeft hRight
    obtain ⟨block, hFormat, hLines⟩ :=
      ColumnLayout.map_fieldAt_range hType (max_one_le_rowHeight (List.mem_of_getElem? hCell))
    refine ⟨block, hFormat, ?_⟩
    rw [← hLines, rowLines, List.map_map, List.map_map]
    exact List.map_congr_left fun index _ => getElem?_rowLine hLayout hCell index

end Tabular.Table
