import Tabular.Proofs.Table.Body

/-!
Validation alone decides whether a table is rendered. It reports the uppermost row of a wrong
length, else the first cell of another type than its column; and after it no step of rendering
fails.
-/

namespace Tabular

/-- The cell comes before the other where rows are read from the top and each from the left. -/
def CellPosition.Before (a b : CellPosition) : Prop :=
  a.row < b.row ∨ a.row = b.row ∧ a.column < b.column

namespace Table

/-- The row at this place does not have one cell per column. -/
def WrongLength (columns : List Column) (rows : List Row) (place : Nat) : Prop :=
  ∃ row, rows[place]? = some row ∧ row.length ≠ columns.length

/-- At this position a value of the type `found` stands in a column that declares another. -/
def Mistyped (columns : List Column) (rows : List Row) (position : CellPosition)
    (declared found : ValueType) : Prop :=
  ∃ row column value, rows[position.row]? = some row ∧
    columns[position.column]? = some column ∧ row[position.column]? = some (some value) ∧
      column.type = declared ∧ value.type = found ∧ found ≠ declared

theorem checkRows_eq_error_iff {check : Nat → Row → Except Error Unit} {index : Nat}
    {rows : List Row} {e : Error} :
    checkRows check index rows = .error e ↔ ∃ place, FailsAt check index rows place e := by
  induction rows generalizing index with
  | nil => simp [checkRows, not_failsAt_nil]
  | cons row rows ih => rw [checkRows, bind_eq_error_iff, exists_failsAt_cons_iff, ih]

theorem checkCells_eq_error_iff {rowIndex index : Nat} {columns : List Column} {row : Row}
    {e : Error} :
    checkCells rowIndex index columns row = .error e ↔
      ∃ place, FailsAt (fun k pair => atCell rowIndex k (checkCell pair.1 pair.2)) index
        (columns.zip row) place e := by
  induction columns generalizing index row with
  | nil => simp [checkCells, not_failsAt_nil]
  | cons column columns ih =>
      cases row with
      | nil => simp [checkCells, not_failsAt_nil]
      | cons cell row =>
          rw [checkCells, bind_eq_error_iff, List.zip_cons_cons, exists_failsAt_cons_iff, ih]

theorem checkLength_eq_error_iff {columns : List Column} {index : Nat} {row : Row} {e : Error} :
    checkLength columns index row = .error e ↔
      row.length ≠ columns.length ∧ e = ⟨.rowLength index row.length columns.length, none⟩ := by
  rw [checkLength]
  split
  · next h => simp [h]
  · next h => simp [h, failure, eq_comm]

theorem checkCell_eq_error_iff {column : Column} {cell : Cell} {e : Error} :
    checkCell column cell = .error e ↔
      ∃ value, cell = some value ∧ value.type ≠ column.type ∧
        e = ⟨.typeMismatch column.type value.type, none⟩ := by
  cases cell with
  | none => simp [checkCell]
  | some value =>
      rw [checkCell]
      split
      · next h => simp [h]
      · next h =>
        simp only [failure, Except.error.injEq, Option.some.injEq, exists_eq_left', h, ne_eq,
          not_false_eq_true, true_and]
        exact eq_comm

/-- If the lengths are refused, it is for the uppermost row of a wrong length. -/
theorem exists_wrongLength_of_checkRows {columns : List Column} {rows : List Row} {e : Error}
    (h : checkRows (checkLength columns) 0 rows = .error e) :
    ∃ place row, rows[place]? = some row ∧ IsLeast {k | WrongLength columns rows k} place ∧
      e = ⟨.rowLength place row.length columns.length, none⟩ := by
  obtain ⟨place, ⟨row, hRow, hFails⟩, hFirst⟩ := checkRows_eq_error_iff.mp h
  obtain ⟨hLength, rfl⟩ := checkLength_eq_error_iff.mp hFails
  refine ⟨place, row, hRow, ⟨⟨row, hRow, hLength⟩, ?_⟩, by rw [Nat.zero_add]⟩
  rintro earlier ⟨other, hOther, hWrong⟩
  by_contra hLt
  obtain ⟨_, hPasses⟩ := hFirst earlier (Nat.lt_of_not_le hLt) other hOther
  exact hWrong (checkLength_eq_ok_iff.mp hPasses)

/-- A cell is refused exactly if it is mistyped. -/
theorem mistyped_of_checkCell {columns : List Column} {rows : List Row} {row : Row} {place k : Nat}
    (hRow : rows[place]? = some row) {pair : Column × Cell}
    (hPair : (columns.zip row)[k]? = some pair)
    {raw : Error} (h : checkCell pair.1 pair.2 = .error raw) :
    ∃ declared found, Mistyped columns rows ⟨place, k⟩ declared found ∧
      raw = ⟨.typeMismatch declared found, none⟩ := by
  obtain ⟨value, hValue, hType, rfl⟩ := checkCell_eq_error_iff.mp h
  obtain ⟨hColumn, hCell⟩ := List.getElem?_zip_eq_some.mp hPair
  exact ⟨_, _, ⟨row, pair.1, value, hRow, hColumn, hValue ▸ hCell, rfl, rfl, hType⟩, rfl⟩

/-- A row that matches the columns has no mistyped cell. -/
theorem Matches.not_mistyped {columns : List Column} {row : Row} (h : Matches columns row)
    {rows : List Row} {position : CellPosition} (hRow : rows[position.row]? = some row)
    (declared found : ValueType) : ¬ Mistyped columns rows position declared found := by
  rintro ⟨other, column, value, hOther, hColumn, hCell, rfl, rfl, hType⟩
  obtain rfl : row = other := Option.some.inj (hRow.symm.trans hOther)
  obtain ⟨hIndex, rfl⟩ := List.getElem?_eq_some_iff.mp hColumn
  obtain ⟨hCellIndex, hCell⟩ := List.getElem?_eq_some_iff.mp hCell
  have hMatch : Cell.HasType _ row[position.column] :=
    (List.forall₂_iff_get.mp h).2 position.column hIndex hCellIndex
  exact hType (hMatch value hCell)

/-- If the cells are refused, it is for the first that is mistyped. -/
theorem exists_mistyped_of_checkRows {columns : List Column} {rows : List Row} {e : Error}
    (hLengths : ∀ row ∈ rows, row.length = columns.length)
    (h : checkRows (checkCells · 0 columns) 0 rows = .error e) :
    ∃ position declared found, Mistyped columns rows position declared found ∧
      (∀ earlier : CellPosition, earlier.Before position →
        ∀ declared found, ¬ Mistyped columns rows earlier declared found) ∧
      e = ⟨.typeMismatch declared found, some position⟩ := by
  obtain ⟨place, ⟨row, hRow, hFails⟩, hFirstRow⟩ := checkRows_eq_error_iff.mp h
  obtain ⟨k, ⟨pair, hPair, hFails⟩, hFirstCell⟩ := checkCells_eq_error_iff.mp hFails
  obtain ⟨raw, hRaw, rfl⟩ := atCell_eq_error_iff.mp hFails
  obtain ⟨declared, found, hMistyped, rfl⟩ := mistyped_of_checkCell hRow hPair hRaw
  refine ⟨⟨place, k⟩, declared, found, hMistyped, ?_, by rw [Nat.zero_add, Nat.zero_add]; rfl⟩
  rintro ⟨otherRow, otherColumn⟩ (hAbove | ⟨hSame, hLeft⟩) otherDeclared otherFound hOther
  · obtain ⟨other, _, _, hAt, -⟩ := id hOther
    obtain ⟨_, hPasses⟩ := hFirstRow otherRow hAbove other hAt
    have hMatches := (checkCells_eq_ok_iff (hLengths other (List.mem_of_getElem? hAt))).mp hPasses
    exact hMatches.not_mistyped hAt _ _ hOther
  · obtain rfl : otherRow = place := hSame
    obtain ⟨other, column, value, hAt, hColumn, hCell, rfl, rfl, hType⟩ := hOther
    obtain rfl : row = other := Option.some.inj (hRow.symm.trans hAt)
    obtain ⟨_, hPasses⟩ := hFirstCell otherColumn hLeft (column, some value)
      (List.getElem?_zip_eq_some.mpr ⟨hColumn, hCell⟩)
    exact hType (checkCell_eq_ok_iff.mp (atCell_eq_ok_iff.mp hPasses) value rfl)

/-- What validation reports is the first wrong length or, if all lengths are right, the first
mistyped cell. -/
theorem exists_fault_of_validate {columns : List Column} {rows : List Row} {e : Error}
    (h : validate columns rows = .error e) :
    (∃ place row, rows[place]? = some row ∧ IsLeast {k | WrongLength columns rows k} place ∧
      e = ⟨.rowLength place row.length columns.length, none⟩) ∨
    (∀ place, ¬ WrongLength columns rows place) ∧
      ∃ position declared found, Mistyped columns rows position declared found ∧
        (∀ earlier : CellPosition, earlier.Before position →
          ∀ declared found, ¬ Mistyped columns rows earlier declared found) ∧
        e = ⟨.typeMismatch declared found, some position⟩ := by
  rcases bind_eq_error_iff.mp h with hLength | ⟨_, hLengths, hCells⟩
  · exact Or.inl (exists_wrongLength_of_checkRows hLength)
  · have hRight (place : Nat) (row : Row) (hAt : rows[place]? = some row) :
        row.length = columns.length :=
      checkLength_eq_ok_iff.mp (checkRows_eq_ok_iff.mp hLengths place row hAt)
    refine Or.inr ⟨?_, exists_mistyped_of_checkRows ?_ hCells⟩
    · rintro place ⟨row, hAt, hWrong⟩
      exact hWrong (hRight place row hAt)
    · intro row hRow
      obtain ⟨place, hAt⟩ := List.getElem?_of_mem hRow
      exact hRight place row hAt

theorem not_wrongLength_of_validate {columns : List Column} {rows : List Row}
    (h : validate columns rows = .ok ()) (place : Nat) : ¬ WrongLength columns rows place := by
  rintro ⟨row, hAt, hWrong⟩
  exact hWrong (validate_eq_ok_iff.mp h row (List.mem_of_getElem? hAt)).length_eq.symm

theorem not_mistyped_of_validate {columns : List Column} {rows : List Row}
    (h : validate columns rows = .ok ()) (position : CellPosition) (declared found : ValueType) :
    ¬ Mistyped columns rows position declared found := by
  intro hMistyped
  obtain ⟨row, _, _, hAt, -⟩ := id hMistyped
  exact (validate_eq_ok_iff.mp h row (List.mem_of_getElem? hAt)).not_mistyped hAt _ _ hMistyped

/-- Rows of the right lengths without a mistyped cell are valid. -/
theorem validate_eq_ok_of_not_mistyped {columns : List Column} {rows : List Row}
    (hLengths : ∀ row ∈ rows, row.length = columns.length)
    (h : ∀ position declared found, ¬ Mistyped columns rows position declared found) :
    validate columns rows = .ok () := by
  refine validate_eq_ok_iff.mpr fun row hRow => ?_
  obtain ⟨place, hAt⟩ := List.getElem?_of_mem hRow
  refine List.forall₂_iff_get.mpr ⟨(hLengths row hRow).symm, ?_⟩
  intro index hColumn hCell value hValue
  by_contra hType
  exact h ⟨place, index⟩ _ _ ⟨row, columns[index], value, hAt, List.getElem?_eq_getElem hColumn,
    by rw [List.getElem?_eq_getElem hCell]; exact congrArg some hValue, rfl, rfl, hType⟩

/-- No step of rendering the rows fails: neither observing nor formatting any cell of them, in
whatever state the layout of its column is, nor the loops over all cells. -/
structure StepsPass (columns : List Column) (rows : List Row) : Prop where
  cell : ∀ row ∈ rows, ∀ (index : Nat) (column : Column) (cell : Cell),
    columns[index]? = some column → row[index]? = some cell →
      ∀ layout : ColumnLayout, layout.type = column.type →
        (∃ seen, layout.observe cell = .ok seen ∧ seen.type = column.type) ∧
          ∃ block, layout.format cell = .ok block
  observe : ∃ observed,
    observeRows 0 (columns.map fun column => .empty column.type) rows = .ok observed ∧
      layouts columns rows = .ok (observed.map ColumnLayout.settle)
  assemble : ∀ settled, layouts columns rows = .ok settled →
    ∃ body, Table.assemble settled rows = .ok body

theorem stepsPass_of_validate {columns : List Column} {rows : List Row}
    (h : validate columns rows = .ok ()) : StepsPass columns rows where
  cell := by
    intro row hRow index column cell hColumn hCell layout hType
    obtain ⟨hIndex, rfl⟩ := List.getElem?_eq_some_iff.mp hColumn
    obtain ⟨hCellIndex, rfl⟩ := List.getElem?_eq_some_iff.mp hCell
    have hMatches := validate_eq_ok_iff.mp h row hRow
    have hHasType : Cell.HasType layout.type row[index] :=
      hType ▸ (List.forall₂_iff_get.mp hMatches).2 index hIndex hCellIndex
    obtain ⟨block, hFormat, -⟩ := ColumnLayout.format_of_hasType hHasType
    exact ⟨⟨_, ColumnLayout.observe_of_hasType hHasType, by rw [ColumnLayout.type_see, hType]⟩,
      block, hFormat⟩
  observe := by
    have hObserved := @observeRows_of_fits 0 _ _ fun row hRow =>
      fits_empty_iff.mpr (validate_eq_ok_iff.mp h row hRow)
    refine ⟨_, hObserved, ?_⟩
    rw [layouts, h]
    show (observeRows 0 _ rows >>= _) = _
    rw [hObserved]
    rfl
  assemble := by
    intro settled hSettled
    have hFits : ∀ row ∈ rows, Fits settled row := fun row hRow =>
      (forall₂_holds h hSettled hRow).imp fun _ _ hCell => hCell.hasType
    exact ⟨_, assembleFrom_of_fits hFits 0⟩

/-- The layouts fail with the error of validation and with no other. -/
theorem layouts_eq_error_iff {columns : List Column} {rows : List Row} {e : Error} :
    layouts columns rows = .error e ↔ validate columns rows = .error e := by
  cases hValid : validate columns rows with
  | ok _ => simp [layouts_of_validate hValid]
  | error raised =>
      have hRaised : layouts columns rows = .error raised := by
        rw [layouts, hValid]
        rfl
      simp [hRaised]

/-- Rendering fails with the error of validation and with no other. -/
theorem render_eq_error_iff {options : Options} {columns : List Column} {rows : List Row}
    {e : Error} :
    render options columns rows = .error e ↔ validate columns rows = .error e := by
  cases hValid : validate columns rows with
  | ok _ =>
      obtain ⟨layouts, -, -, -, hRender⟩ := render_of_validate hValid
      simp [hRender options]
  | error raised =>
      have hRaised : render options columns rows = .error raised := by
        rw [render, renderLines, layouts, hValid]
        rfl
      simp [hRaised]

/-- Whether a table is rendered is decided by validation, whose error is that of every later step.
Lengths come before types: a row of a wrong length is reported, the uppermost, even under a mistyped
cell; else the first mistyped cell is; else no step fails. -/
theorem validation_decides (columns : List Column) (rows : List Row) :
    ((∃ place, WrongLength columns rows place) →
      ∃ place row e, rows[place]? = some row ∧ IsLeast {k | WrongLength columns rows k} place ∧
        validate columns rows = .error e ∧ e.kind = .rowLength ∧ e.position = none ∧
        e.message = "row " ++ toString place ++ " has " ++ toString row.length ++
          " cells but " ++ toString columns.length ++ " columns are declared") ∧
    ((∀ place, ¬ WrongLength columns rows place) →
      (∃ position declared found, Mistyped columns rows position declared found) →
      ∃ position declared found e, Mistyped columns rows position declared found ∧
        (∀ earlier : CellPosition, earlier.Before position →
          ∀ declared found, ¬ Mistyped columns rows earlier declared found) ∧
        validate columns rows = .error e ∧ e.kind = .typeMismatch ∧ e.position = some position ∧
        e.message = "expected a " ++ declared.name ++ " value, found a " ++ found.name ++
          " value" ++ " at row=" ++ toString position.row ++ ", col=" ++ toString position.column) ∧
    ((∀ place, ¬ WrongLength columns rows place) →
      (∀ position declared found, ¬ Mistyped columns rows position declared found) →
      validate columns rows = .ok ()) ∧
    (∀ e, layouts columns rows = .error e ↔ validate columns rows = .error e) ∧
    (∀ options e, render options columns rows = .error e ↔ validate columns rows = .error e) ∧
    (validate columns rows = .ok () → StepsPass columns rows) := by
  refine ⟨?_, ?_, ?_, fun e => layouts_eq_error_iff, fun options e => render_eq_error_iff,
    stepsPass_of_validate⟩
  · rintro ⟨wrong, hWrong⟩
    cases hValid : validate columns rows with
    | ok _ => exact absurd hWrong (not_wrongLength_of_validate hValid wrong)
    | error e =>
        rcases exists_fault_of_validate hValid with ⟨place, row, hAt, hLeast, rfl⟩ | ⟨hRight, -⟩
        · exact ⟨place, row, _, hAt, hLeast, rfl, rfl, rfl, rfl⟩
        · exact absurd hWrong (hRight wrong)
  · rintro hRight ⟨wrong, declared, found, hWrong⟩
    cases hValid : validate columns rows with
    | ok _ => exact absurd hWrong (not_mistyped_of_validate hValid wrong declared found)
    | error e =>
        rcases exists_fault_of_validate hValid with
          ⟨place, -, -, hLeast, -⟩ | ⟨-, position, declared, found, hMistyped, hFirst, rfl⟩
        · exact absurd hLeast.1 (hRight place)
        · exact ⟨position, declared, found, _, hMistyped, hFirst, rfl, rfl, rfl, rfl⟩
  · intro hRight hTyped
    refine validate_eq_ok_of_not_mistyped (fun row hRow => ?_) hTyped
    obtain ⟨place, hAt⟩ := List.getElem?_of_mem hRow
    by_contra hLength
    exact hRight place ⟨row, hAt, hLength⟩

/-- A short row is reported although a mistyped cell stands above it, and rendering fails alike. -/
theorem short_row_below_mistyped_cell :
    let columns : List Column := [⟨"note", .string⟩, ⟨"held", .inventory⟩]
    let rows : List Row := [[some (.inventory ⟨[]⟩), none], [none]]
    Mistyped columns rows ⟨0, 0⟩ .string .inventory ∧ WrongLength columns rows 1 ∧
      ∃ e, validate columns rows = .error e ∧ e.kind = .rowLength ∧ e.position = none ∧
        ∀ options, render options columns rows = .error e := by
  intro columns rows
  have hWrong : WrongLength columns rows 1 := ⟨[none], rfl, by decide⟩
  obtain ⟨hLength, -, -, -, hRender, -⟩ := validation_decides columns rows
  obtain ⟨place, row, e, -, -, hError, hKind, hPosition, -⟩ := hLength ⟨1, hWrong⟩
  refine ⟨⟨_, _, _, rfl, rfl, rfl, rfl, rfl, by decide⟩, hWrong, e, hError, hKind, hPosition, ?_⟩
  exact fun options => (hRender options e).mpr hError

end Table

end Tabular
