import Tabular.Proofs.Layout.Lines
import Tabular.Proofs.Table.Body

/-!
What makes no difference to a rendered table. The layout of a column is learned from the cells of
that column alone, in whatever order they are observed. So rows in another order are rendered to the
same lines in that order, inside the same frame.
-/

namespace Tabular

/-- Cells that are observed in another order teach the same layout. -/
theorem ColumnLayout.learned_of_perm {cells others : List Cell} (h : cells.Perm others)
    (type : ValueType) : learned type cells = learned type others := by
  have hFold : cells.foldl see (empty type) = others.foldl see (empty type) :=
    h.foldl_eq' (fun a _ b _ layout => see_comm layout a b) (empty type)
  rw [learned, learned, hFold]

namespace Table

variable {columns : List Column} {rows others : List Row}

theorem validate_of_perm (h : others.Perm rows) (hValid : validate columns rows = .ok ()) :
    validate columns others = .ok () :=
  validate_eq_ok_iff.mpr fun row hRow => validate_eq_ok_iff.mp hValid row (h.mem_iff.mp hRow)

/-- Every layout is learned from the cells of its own column. -/
theorem getElem?_layouts {layouts : List ColumnLayout} (hValid : validate columns rows = .ok ())
    (hLayouts : Table.layouts columns rows = .ok layouts) (index : Nat) :
    layouts[index]? =
      columns[index]?.map fun column => .learned column.type (cellsOf rows index) := by
  rw [layouts_of_validate hValid, Except.ok.injEq] at hLayouts
  rw [← hLayouts, List.getElem?_mapIdx]

/-- Rows in another order teach the same layouts. -/
theorem layouts_of_perm (h : others.Perm rows) (hValid : validate columns rows = .ok ()) :
    layouts columns others = layouts columns rows := by
  have hCells (index : Nat) : (cellsOf others index).Perm (cellsOf rows index) :=
    h.filterMap fun row => row[index]?
  rw [layouts_of_validate hValid, layouts_of_validate (validate_of_perm h hValid)]
  simp only [fun type index => ColumnLayout.learned_of_perm (hCells index) type]

/-- Every cell of a column of valid rows has the type of the column. -/
theorem hasType_of_mem_cellsOf (hValid : validate columns rows = .ok ()) {index : Nat}
    {column : Column} (hColumn : columns[index]? = some column) {cell : Cell}
    (hCell : cell ∈ cellsOf rows index) : cell.HasType column.type := by
  obtain ⟨row, hRow, hAt⟩ := List.mem_filterMap.mp hCell
  obtain ⟨hIndex, rfl⟩ := List.getElem?_eq_some_iff.mp hColumn
  obtain ⟨hCellIndex, rfl⟩ := List.getElem?_eq_some_iff.mp hAt
  exact (List.forall₂_iff_get.mp (validate_eq_ok_iff.mp hValid row hRow)).2 index hIndex hCellIndex

/-- The layout of a column is that of a column by itself which observes these cells, whatever their
order, and is then settled. -/
theorem exists_observed_of_perm (hValid : validate columns rows = .ok ()) {index : Nat}
    {column : Column} (hColumn : columns[index]? = some column) {cells : List Cell}
    (hCells : cells.Perm (cellsOf rows index)) :
    ∃ observed, cells.foldlM ColumnLayout.observe (.empty column.type) = .ok observed ∧
      observed.settle = .learned column.type (cellsOf rows index) := by
  have hTypes : ∀ cell ∈ cells, cell.HasType (ColumnLayout.empty column.type).type := by
    intro cell hCell
    rw [ColumnLayout.type_empty]
    exact hasType_of_mem_cellsOf hValid hColumn (hCells.mem_iff.mp hCell)
  exact ⟨_, ColumnLayout.foldlM_observe_of_hasType hTypes,
    ColumnLayout.learned_of_perm hCells column.type⟩

/-- The order of the rows and the other columns make no difference. The layout of a column is that
of a column by itself which observes the same cells in any order, so that columns of one type with
the same cells have the same layout in whatever tables they stand. Rows in another order are
rendered, and to the same lines: the frame and the names stay, and each row takes its own lines to
its new place. -/
theorem rows_and_columns_are_independent (columns : List Column) (rows : List Row)
    (h : validate columns rows = .ok ()) :
    ∃ (layouts : List ColumnLayout) (block : Row → List Line),
      Table.layouts columns rows = .ok layouts ∧
      (∀ index column, columns[index]? = some column →
        ∃ layout, layouts[index]? = some layout ∧
          ∀ cells : List Cell, cells.Perm (cellsOf rows index) →
            ∃ observed, cells.foldlM ColumnLayout.observe (.empty column.type) = .ok observed ∧
              observed.settle = layout) ∧
      (∀ (otherColumns : List Column) (otherRows : List Row) (otherLayouts : List ColumnLayout),
        Table.layouts otherColumns otherRows = .ok otherLayouts →
        ∀ (index place : Nat) (column other : Column),
          columns[index]? = some column → otherColumns[place]? = some other →
          other.type = column.type → (cellsOf otherRows place).Perm (cellsOf rows index) →
            otherLayouts[place]? = layouts[index]?) ∧
      (∀ showNames, ∀ row ∈ rows,
        Expands layouts (frameWidths showNames layouts columns) row (block row)) ∧
      ∀ others : List Row, others.Perm rows →
        Table.layouts columns others = .ok layouts ∧
        ∀ options : Options, render options columns others =
          .ok (joinLines options.lineEnd
            (framed (frameWidths options.showNames layouts columns)
              (shownNames options.showNames columns) (others.flatMap block))) := by
  obtain ⟨layouts, hLayouts, hLength, hHolds, -⟩ := render_of_validate h
  refine ⟨layouts, rowLines layouts, hLayouts, ?_, ?_, ?_, ?_⟩
  · intro index column hColumn
    refine ⟨_, by rw [getElem?_layouts h hLayouts, hColumn]; rfl, fun cells hCells => ?_⟩
    exact exists_observed_of_perm h hColumn hCells
  · intro otherColumns otherRows otherLayouts hOther index place column other hColumn hPlace hType
      hCells
    have hValid := (check_bind_eq_ok_iff.mp hOther).1
    rw [getElem?_layouts hValid hOther, getElem?_layouts h hLayouts, hColumn, hPlace,
      Option.map_some, Option.map_some, hType, ColumnLayout.learned_of_perm hCells]
  · intro showNames row hRow
    have hFits : Fits layouts row := (hHolds row hRow).imp fun _ _ hCell => hCell.hasType
    exact expands_rowLines hFits ((length_frameWidths hLength).trans hLength.symm)
  · intro others hPerm
    obtain ⟨same, hSame, -, -, hRender⟩ := render_of_validate (validate_of_perm hPerm h)
    have hBoth : Table.layouts columns others = .ok layouts :=
      (layouts_of_perm hPerm h).trans hLayouts
    obtain rfl : same = layouts := Except.ok.inj (hSame.symm.trans hBoth)
    exact ⟨hBoth, hRender⟩

/-- A row of two lines and one of one line change places. -/
theorem independence_of_swapped_rows :
    let columns : List Column := [⟨"note", .string⟩, ⟨"held", .inventory⟩]
    let held (mantissa : Nat) (h : mantissa < Decimal.mantissaLimit) : Position :=
      ⟨⟨⟨false, mantissa, 1, h, by decide⟩, "EUR"⟩, none⟩
    let upper : Row :=
      [some (.string "ok"), some (.inventory ⟨[held 125 (by decide), held 5 (by decide)]⟩)]
    let lower : Row := [none, some (.inventory ⟨[held 1000 (by decide)]⟩)]
    validate columns [upper, lower] = .ok () ∧ [lower, upper].Perm [upper, lower] ∧
      ∃ widths upperLines lowerLines,
        upperLines.length = 2 ∧ lowerLines.length = 1 ∧
        render {} columns [upper, lower] =
          .ok (joinLines .lf (framed widths none (upperLines ++ lowerLines))) ∧
        render {} columns [lower, upper] =
          .ok (joinLines .lf (framed widths none (lowerLines ++ upperLines))) := by
  intro columns held upper lower
  have hSwap : [lower, upper].Perm [upper, lower] := List.Perm.swap upper lower []
  obtain ⟨layouts, block, -, -, -, hExpands, hRender⟩ :=
    rows_and_columns_are_independent columns [upper, lower] rfl
  refine ⟨rfl, hSwap, frameWidths false layouts columns, block upper, block lower,
    (hExpands false upper (by simp)).height, (hExpands false lower (by simp)).height, ?_, ?_⟩
  · simpa [shownNames] using (hRender _ (List.Perm.refl _)).2 {}
  · simpa [shownNames] using (hRender _ hSwap).2 {}

end Table

end Tabular
