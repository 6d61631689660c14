import Tabular.Proofs.Layout.Field
import Tabular.Proofs.Outcome
import Tabular.Table.Layouts

/-!
The layouts of a table whose rows are valid: each is learned from the cells of its own column, has
seen them all, and is settled.
-/

namespace Tabular.Table

/-- The row has one cell per column, each empty or of its column's type. -/
def Matches (columns : List Column) (row : Row) : Prop :=
  List.Forall₂ (fun column cell => Cell.HasType column.type cell) columns row

theorem checkRows_eq_ok_iff {check : Nat → Row → Except Error Unit} {index : Nat}
    {rows : List Row} :
    checkRows check index rows = .ok () ↔
      ∀ i row, rows[i]? = some row → check (index + i) row = .ok () := by
  induction rows generalizing index with
  | nil => simp [checkRows]
  | cons row rows ih =>
      rw [checkRows, check_bind_eq_ok_iff, ih]
      constructor
      · rintro ⟨hHead, hTail⟩ i row' hRow
        cases i with
        | zero =>
            obtain rfl : row = row' := by simpa using hRow
            exact hHead
        | succ i =>
            have hNext := hTail i row' (by simpa using hRow)
            rwa [Nat.add_right_comm] at hNext
      · intro h
        refine ⟨h 0 row rfl, ?_⟩
        intro i row' hRow
        have hNext := h (i + 1) row' (by simpa using hRow)
        rwa [← Nat.add_assoc, Nat.add_right_comm] at hNext

theorem checkLength_eq_ok_iff {columns : List Column} {index : Nat} {row : Row} :
    checkLength columns index row = .ok () ↔ row.length = columns.length := by
  rw [checkLength]
  split
  · next h => simp [h]
  · next h => simp [h, failure]

theorem checkCell_eq_ok_iff {column : Column} {cell : Cell} :
    checkCell column cell = .ok () ↔ cell.HasType column.type := by
  cases cell with
  | none => simp [checkCell, Cell.HasType]
  | some value =>
      rw [checkCell]
      split
      · next h => simp [Cell.HasType, h]
      · next h => simp [Cell.HasType, h, failure]

theorem checkCells_eq_ok_iff {rowIndex index : Nat} {columns : List Column} {row : Row}
    (hLength : row.length = columns.length) :
    checkCells rowIndex index columns row = .ok () ↔ Matches columns row := by
  induction columns generalizing index row with
  | nil =>
      rw [List.length_nil, List.length_eq_zero_iff] at hLength
      subst hLength
      simp [checkCells, Matches]
  | cons column columns ih =>
      cases row with
      | nil => cases hLength
      | cons cell row =>
          have hRest : row.length = columns.length := by simpa using hLength
          rw [checkCells, check_bind_eq_ok_iff, atCell_eq_ok_iff, checkCell_eq_ok_iff, ih hRest,
            Matches, Matches, List.forall₂_cons]

/-- The rows that pass the checks are those that match the columns. -/
theorem validate_eq_ok_iff {columns : List Column} {rows : List Row} :
    validate columns rows = .ok () ↔ ∀ row ∈ rows, Matches columns row := by
  rw [validate, check_bind_eq_ok_iff]
  simp only [checkRows_eq_ok_iff, checkLength_eq_ok_iff]
  constructor
  · rintro ⟨hLengths, hCells⟩ row hRow
    obtain ⟨i, hAt⟩ := List.getElem?_of_mem hRow
    exact (checkCells_eq_ok_iff (hLengths i row hAt)).mp (hCells i row hAt)
  · intro h
    have hAll (i : Nat) (row : Row) (hAt : rows[i]? = some row) : Matches columns row :=
      h row (List.mem_of_getElem? hAt)
    refine ⟨fun i row hAt => (hAll i row hAt).length_eq.symm, ?_⟩
    intro i row hAt
    exact (checkCells_eq_ok_iff (hAll i row hAt).length_eq.symm).mpr (hAll i row hAt)

/-- Every cell of the row has the type of its layout. -/
def Fits (layouts : List ColumnLayout) (row : Row) : Prop :=
  List.Forall₂ (fun layout cell => Cell.HasType layout.type cell) layouts row

theorem fits_empty_iff {columns : List Column} {row : Row} :
    Fits (columns.map fun column => .empty column.type) row ↔ Matches columns row := by
  rw [Fits, List.forall₂_map_left_iff]
  simp only [ColumnLayout.type_empty, Matches]

/-- Seeing a row leaves room for others: the types of the layouts stay. -/
theorem Fits.zipWith_see {layouts : List ColumnLayout} {row other : Row} (hRow : Fits layouts row)
    (hOther : Fits layouts other) :
    Fits (List.zipWith ColumnLayout.see layouts row) other := by
  induction hRow generalizing other with
  | nil => exact hOther
  | @cons layout cell layouts row hCell hRest ih =>
      cases hOther with
      | cons hHead hTail =>
          refine .cons ?_ (ih hTail)
          rwa [ColumnLayout.type_see]

theorem observeCells_of_fits {rowIndex index : Nat} {layouts : List ColumnLayout} {row : Row}
    (h : Fits layouts row) :
    observeCells rowIndex index layouts row =
      .ok (List.zipWith ColumnLayout.see layouts row) := by
  induction h generalizing index with
  | nil => rfl
  | cons hCell hRest ih =>
      rw [observeCells, ColumnLayout.observe_of_hasType hCell, atCell_ok, ih]
      rfl

/-- Rows that fit are all observed, each cell in the layout of its column. -/
theorem observeRows_of_fits {index : Nat} {layouts : List ColumnLayout} {rows : List Row}
    (h : ∀ row ∈ rows, Fits layouts row) :
    observeRows index layouts rows =
      .ok (rows.foldl (List.zipWith ColumnLayout.see) layouts) := by
  induction rows generalizing index layouts with
  | nil => rfl
  | cons row rows ih =>
      obtain ⟨hHead, hTail⟩ := List.forall_mem_cons.mp h
      rw [observeRows, observeCells_of_fits hHead]
      exact ih fun other hOther => hHead.zipWith_see (hTail other hOther)

/-- The cells of one column, from the top. -/
def cellsOf (rows : List Row) (index : Nat) : List Cell :=
  rows.filterMap fun row => row[index]?

/-- Seeing row after row is, in each column by itself, seeing cell after cell. -/
theorem getElem?_foldl_see {layouts : List ColumnLayout} {rows : List Row}
    (h : ∀ row ∈ rows, row.length = layouts.length) (index : Nat) :
    (rows.foldl (List.zipWith ColumnLayout.see) layouts)[index]? =
      layouts[index]?.map ((cellsOf rows index).foldl ColumnLayout.see) := by
  induction rows generalizing layouts with
  | nil => simp [cellsOf]
  | cons row rows ih =>
      obtain ⟨hHead, hTail⟩ := List.forall_mem_cons.mp h
      have hRest : ∀ other ∈ rows,
          other.length = (List.zipWith ColumnLayout.see layouts row).length := by
        intro other hOther
        rw [List.length_zipWith, hHead, Nat.min_self, hTail other hOther]
      rw [List.foldl_cons, ih hRest, List.getElem?_zipWith]
      by_cases hIndex : index < layouts.length
      · have hCell : row[index]? = some row[index] := List.getElem?_eq_getElem (by omega)
        rw [List.getElem?_eq_getElem hIndex, hCell, cellsOf, cellsOf, List.filterMap_cons, hCell]
        rfl
      · rw [List.getElem?_eq_none (by omega)]
        rfl

/-- The layout of each column is learned from the cells of that column alone. -/
theorem layouts_of_validate {columns : List Column} {rows : List Row}
    (h : validate columns rows = .ok ()) :
    layouts columns rows = .ok (columns.mapIdx fun index column =>
      .learned column.type (cellsOf rows index)) := by
  have hMatches := validate_eq_ok_iff.mp h
  have hLengths : ∀ row ∈ rows, row.length =
      (columns.map fun column => ColumnLayout.empty column.type).length := by
    intro row hRow
    rw [List.length_map]
    exact (hMatches row hRow).length_eq.symm
  rw [layouts, h]
  show (observeRows 0 _ rows >>= _) = _
  rw [observeRows_of_fits fun row hRow => fits_empty_iff.mpr (hMatches row hRow)]
  show Except.ok _ = Except.ok _
  congr 1
  apply List.ext_getElem?
  intro index
  rw [List.getElem?_map, getElem?_foldl_see hLengths, List.getElem?_mapIdx, List.getElem?_map]
  cases columns[index]? <;> rfl

theorem mem_cellsOf {rows : List Row} {row : Row} {index : Nat} {cell : Cell} (hRow : row ∈ rows)
    (hCell : row[index]? = some cell) : cell ∈ cellsOf rows index :=
  List.mem_filterMap.mpr ⟨row, hRow, hCell⟩

/-- The layouts of valid rows hold the cells of each of them. -/
theorem forall₂_holds {columns : List Column} {rows : List Row} {layouts : List ColumnLayout}
    (h : validate columns rows = .ok ()) (hLayouts : Table.layouts columns rows = .ok layouts)
    {row : Row} (hRow : row ∈ rows) : List.Forall₂ ColumnLayout.Holds layouts row := by
  have hMatches := validate_eq_ok_iff.mp h row hRow
  rw [layouts_of_validate h, Except.ok.injEq] at hLayouts
  subst hLayouts
  obtain ⟨hLength, hTypes⟩ := List.forall₂_iff_get.mp hMatches
  refine List.forall₂_iff_get.mpr ⟨by simpa using hLength, ?_⟩
  intro index hLayout hCell
  have hColumn : index < columns.length := by omega
  simp only [List.get_eq_getElem, List.getElem_mapIdx] at hTypes ⊢
  exact {
    hasType := by
      rw [ColumnLayout.type_learned]
      exact hTypes index hColumn hCell
    seen := ColumnLayout.seen_learned (mem_cellsOf hRow (List.getElem?_eq_getElem hCell)) _
    isSettled := ColumnLayout.isSettled_learned _ _ }

end Tabular.Table
