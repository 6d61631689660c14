import Mathlib
import Tabular.Proofs.Layout.Overflow
import Tabular.Proofs.Table.Body

/-!
Rows that are assembled in layouts which may never have seen them. The rows may have fewer cells than
there are columns, or more, of which those beyond the last column are left out. Every number stands
in the lines of its row with all its digits.
-/

namespace Tabular.Table

/-- The cells of the row are empty or of the types of their columns. Where the row is shorter or
longer than the columns, nothing is asked. -/
def TypedIn (layouts : List ColumnLayout) (row : Row) : Prop :=
  ∀ (column : Nat) (layout : ColumnLayout) (cell : Cell),
    layouts[column]? = some layout → row[column]? = some cell → cell.HasType layout.type

/-- The cells that stand in a column, in the columns that have a cell. -/
theorem TypedIn.fits {layouts : List ColumnLayout} {row : Row} (h : TypedIn layouts row) :
    Fits (layouts.take row.length) (row.take layouts.length) := by
  induction layouts generalizing row with
  | nil => exact List.take_nil.symm ▸ .nil
  | cons layout layouts ih =>
      cases row with
      | nil => exact .nil
      | cons cell row =>
          apply List.Forall₂.cons
          · exact h 0 layout cell rfl rfl
          · apply ih
            intro column layout cell hLayout hCell
            exact h (column + 1) layout cell hLayout hCell

theorem formatCells_take (rowIndex index : Nat) (layouts : List ColumnLayout) (row : Row) :
    formatCells rowIndex index layouts row =
      formatCells rowIndex index (layouts.take row.length) (row.take layouts.length) := by
  induction layouts generalizing index row with
  | nil => simp [formatCells]
  | cons layout layouts ih =>
      cases row with
      | nil => rfl
      | cons cell row =>
          rw [List.length_cons, List.length_cons, List.take_succ_cons, List.take_succ_cons,
            formatCells, formatCells, ih]

/-- The lines of a row, of which only the cells that stand in a column are shown. -/
def fittedLines (layouts : List ColumnLayout) (row : Row) : List Line :=
  rowLines (layouts.take row.length) (row.take layouts.length)

/-- Rows of the right types are assembled, whatever the layouts have seen. -/
theorem assembleFrom_of_typedIn {layouts : List ColumnLayout} {rows : List Row}
    (h : ∀ row ∈ rows, TypedIn layouts row) (index : Nat) :
    assembleFrom layouts index rows = .ok (rows.flatMap (fittedLines layouts)) := by
  induction rows generalizing index with
  | nil => rfl
  | cons row rows ih =>
      obtain ⟨hHead, hTail⟩ := List.forall_mem_cons.mp h
      obtain ⟨cells, hCells, hLines⟩ := expand_of_fits hHead.fits index 0
      rw [assembleFrom, formatCells_take, hCells, ih hTail (index + 1), List.flatMap_cons,
        fittedLines, ← hLines]
      rfl

/-- The lines of a row: in each column that has a cell stand the lines of the cell with its numbers,
and below them blanks. -/
structure Written (layouts : List ColumnLayout) (row : Row) (lines : List Line) : Prop where
  height : lines.length = rowHeight (row.take layouts.length)
  length : ∀ fields ∈ lines, fields.length = min layouts.length row.length
  column : ∀ (column : Nat) (layout : ColumnLayout) (cell : Cell),
    layouts[column]? = some layout → row[column]? = some cell →
      ∃ written, layout.Writes cell written ∧
        lines.map (fun fields => fields[column]?) =
          ((written.map WrittenLine.text).rightpad lines.length (Text.spaces layout.width)).map some

theorem written_fittedLines {layouts : List ColumnLayout} {row : Row} (h : TypedIn layouts row) :
    Written layouts row (fittedLines layouts row) := by
  have hExpands : Expands (layouts.take row.length)
      ((layouts.take row.length).map ColumnLayout.width) (row.take layouts.length)
      (fittedLines layouts row) :=
    expands_rowLines h.fits (List.length_map _)
  refine ⟨hExpands.height, ?_, ?_⟩
  · intro fields hFields
    rw [(hExpands.padded fields hFields).1, List.length_take]
  · intro column layout cell hLayout hCell
    obtain ⟨hColumn, -⟩ := List.getElem?_eq_some_iff.mp hLayout
    obtain ⟨hIndex, -⟩ := List.getElem?_eq_some_iff.mp hCell
    have hLayoutTaken : (layouts.take row.length)[column]? = some layout := by
      rwa [List.getElem?_take_of_lt hIndex]
    have hCellTaken : (row.take layouts.length)[column]? = some cell := by
      rwa [List.getElem?_take_of_lt hColumn]
    obtain ⟨block, hFormat, hDown⟩ := hExpands.downward column layout cell hLayoutTaken hCellTaken
    obtain ⟨other, written, hOther, hLines, hWrites⟩ :=
      ColumnLayout.exists_writes (h column layout cell hLayout hCell)
    obtain rfl := Except.ok.inj (hFormat.symm.trans hOther)
    refine ⟨written, hWrites, ?_⟩
    rw [hDown, hLines, hExpands.height]

/-- Whatever a layout has observed and however often it was settled in between, it renders every
value of its type, seen or not. Each line is as wide as the column, and wider by what the numbers in
it are longer than their fields: numbers have all their digits and their signs, while texts, dates
and currencies are cut. A cost is shown once some position with a cost has been observed. So rows are
assembled without a digit being lost, even those that the layouts were not made for. -/
theorem unseen_numbers_are_never_cut :
    (∀ (type : ValueType) (steps : List ColumnLayout.Step),
      (((ColumnLayout.empty type).run steps).hasCost = true ↔
        ∃ value ∈ steps.filterMap (ColumnLayout.Step.taught type),
          ∃ held ∈ Cell.held (some value), ∃ paid, held.cost = some paid) ∧
      ∀ cell : Cell, cell.HasType type →
        ∃ block lines, ((ColumnLayout.empty type).run steps).format cell = .ok block ∧
          block.lines = lines.map WrittenLine.text ∧
          ((ColumnLayout.empty type).run steps).Writes cell lines ∧
          ∀ line ∈ lines, Text.width line.text =
            ((ColumnLayout.empty type).run steps).width + line.numbers.excess) ∧
    ∀ (layouts : List ColumnLayout) (rows : List Row), (∀ row ∈ rows, TypedIn layouts row) →
      ∃ blocks, assemble layouts rows = .ok blocks.flatten ∧
        List.Forall₂ (Written layouts) rows blocks := by
  constructor
  · intro type steps
    refine ⟨ColumnLayout.hasCost_run_iff type steps, ?_⟩
    intro cell hCell
    have hType : cell.HasType ((ColumnLayout.empty type).run steps).type := by
      rwa [ColumnLayout.type_run, ColumnLayout.type_empty]
    obtain ⟨block, lines, hFormat, hLines, hWrites⟩ := ColumnLayout.exists_writes hType
    exact ⟨block, lines, hFormat, hLines, hWrites, fun line hLine => hWrites.width_eq hLine⟩
  · intro layouts rows hRows
    refine ⟨rows.map (fittedLines layouts), ?_, ?_⟩
    · rw [assemble, assembleFrom_of_typedIn hRows, List.flatMap_def]
    · rw [List.forall₂_map_right_iff, List.forall₂_same]
      intro row hRow
      exact written_fittedLines (hRows row hRow)

/-- A layout that was never settled after it had seen a position with a cost. A longer position is
shown with both its numbers whole and its currencies cut, and the cell beyond the column is left
out. -/
theorem longer_position_is_never_cut :
    let number (mantissa scale : Nat) (h : mantissa < Decimal.mantissaLimit) (hScale : scale ≤ 28) :
        Decimal := ⟨true, mantissa, scale, h, hScale⟩
    let seen : Value := .inventory ⟨[⟨⟨number 1 0 (by decide) (by decide), "A"⟩,
      some ⟨number 2 0 (by decide) (by decide), "B"⟩⟩]⟩
    let longer : Value := .inventory ⟨[⟨⟨number 123450 2 (by decide) (by decide), "HOOL"⟩,
      some ⟨number 995 1 (by decide) (by decide), "USD"⟩⟩]⟩
    let layout := (ColumnLayout.empty .inventory).run [.observe (some seen)]
    Cell.HasType .inventory (some longer) ∧ TypedIn [layout] [some longer, none] ∧
      layout.width = 9 ∧ layout.format (some longer) = .ok (.single "-1234.50 H \x7b-99.5 U\x7d") ∧
      (∃ block lines, layout.format (some longer) = .ok block ∧
        block.lines = lines.map WrittenLine.text ∧ layout.Writes (some longer) lines ∧
        ∀ line ∈ lines, Text.width line.text = layout.width + line.numbers.excess) ∧
      ∃ blocks, assemble [layout] [[some longer, none]] = .ok blocks.flatten ∧
        List.Forall₂ (Written [layout]) [[some longer, none]] blocks := by
  intro number seen longer layout
  have hLonger : Cell.HasType .inventory (some longer) := by
    rintro _ ⟨⟩
    rfl
  have hRow : TypedIn [layout] [some longer, none] := by
    intro column other cell hLayout hCell
    cases column with
    | zero =>
        obtain rfl : layout = other := Option.some.inj hLayout
        obtain rfl : some longer = cell := Option.some.inj hCell
        exact hLonger
    | succ column => cases hLayout
  obtain ⟨hRuns, hRows⟩ := unseen_numbers_are_never_cut
  refine ⟨hLonger, hRow, by decide +kernel, by decide +kernel, ?_, ?_⟩
  · exact (hRuns .inventory [.observe (some seen)]).2 (some longer) hLonger
  · apply hRows
    intro row hMem
    rw [List.mem_singleton.mp hMem]
    exact hRow

end Tabular.Table
