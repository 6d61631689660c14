import Tabular.Proofs.Document.Raised
import Tabular.Proofs.Table.Body

/-!
The conversion of a document to a table. If it succeeds, every cell has the type of its column; if
it fails, it reports the first fault in the order in which the document is read, and a fault inside
a cell with the position of that cell.
-/

namespace Tabular

/-- The error is this raw one, which concerned no cell, placed at the cell: the position is given by
itself and once more behind the words. -/
structure Error.PlacedAt (e raw : Error) (cell : CellPosition) : Prop where
  unplaced : raw.position = none
  kind : e.kind = raw.kind
  position : e.position = some cell
  message : e.message = raw.message ++ " at row=" ++ toString cell.row ++ ", col=" ++
    toString cell.column

theorem Error.placedAt_at {raw : Error} (h : raw.position = none) (cell : CellPosition) :
    (raw.at cell).PlacedAt raw cell where
  unplaced := h
  kind := congrArg Cause.kind (cause_at raw cell)
  position := position_at_of_none h cell
  message := by simp [message, position_at_of_none h, h]

/-- Null alone is an empty cell. -/
theorem Json.eq_none_iff_of_toCell {json : Json} {type : ValueType} {cell : Cell}
    (h : json.toCell type = .ok cell) : cell = none ↔ json = .null := by
  unfold toCell at h
  split at h
  · simp [Except.ok.inj h.symm]
  · next hNull =>
    obtain ⟨value, -, hOk⟩ := bind_eq_ok_iff.mp h
    obtain rfl := Except.ok.inj hOk
    simpa using hNull

namespace Document

/-- What can be wrong in a document: the type of a column, the length of a row, or a cell. -/
inductive Item where
  | columnType (index : Nat)
  | rowLength (place : Nat)
  | cell (place index : Nat)

/-- The item is read before the other: the types of the columns from the left, then the rows from
the top, where the length of a row comes before its cells from the left. -/
def Item.Before : Item → Item → Prop
  | columnType a, columnType b => a < b
  | columnType _, _ => True
  | _, columnType _ => False
  | rowLength a, rowLength b => a < b
  | rowLength a, cell b _ => a ≤ b
  | cell a _, rowLength b => a < b
  | cell a i, cell b j => a < b ∨ a = b ∧ i < j

theorem Item.before_trichotomy (a b : Item) : a.Before b ∨ a = b ∨ b.Before a := by
  cases a <;> cases b <;> simp [Item.Before] <;> omega

/-- The item is faulty by itself, whatever else is wrong, and this is the error that reports it. -/
inductive Faulty (document : Document) : Item → Error → Prop where
  | columnType {index : Nat} {spec : ColumnSpec} {e : Error}
      (hSpec : document.columns[index]? = some spec)
      (hFault : ValueType.parse spec.type = .error e) :
      Faulty document (.columnType index) e
  | rowLength {place : Nat} {cells : List Json} (hRow : document.rows[place]? = some cells)
      (hFault : cells.length ≠ document.columns.length) :
      Faulty document (.rowLength place)
        ⟨.rowLength place cells.length document.columns.length, none⟩
  | cell {place index : Nat} {cells : List Json} {json : Json} {spec : ColumnSpec}
      {type : ValueType} {raw : Error} (hRow : document.rows[place]? = some cells)
      (hCell : cells[index]? = some json) (hSpec : document.columns[index]? = some spec)
      (hType : ValueType.parse spec.type = .ok type) (hFault : json.toCell type = .error raw) :
      Faulty document (.cell place index) (raw.at ⟨place, index⟩)

/-- The error reports a faulty item before which no item is faulty. -/
def FirstFault (document : Document) (e : Error) : Prop :=
  ∃ item, Faulty document item e ∧
    ∀ earlier : Item, earlier.Before item → ∀ other, ¬ Faulty document earlier other

theorem Faulty.unique {document : Document} {item : Item} {a b : Error}
    (hLeft : Faulty document item a) (hRight : Faulty document item b) : a = b := by
  cases hLeft with
  | columnType hSpec hFault =>
      cases hRight with
      | columnType hOther hOtherFault =>
          rw [hSpec, Option.some.injEq] at hOther
          subst hOther
          exact Except.error.inj (hFault.symm.trans hOtherFault)
  | rowLength hRow hFault =>
      cases hRight with
      | rowLength hOther hOtherFault =>
          rw [hRow, Option.some.injEq] at hOther
          rw [hOther]
  | cell hRow hCell hSpec hType hFault =>
      cases hRight with
      | cell hOther hOtherCell hOtherSpec hOtherType hOtherFault =>
          rw [hRow, Option.some.injEq] at hOther
          subst hOther
          rw [hCell, Option.some.injEq] at hOtherCell
          rw [hSpec, Option.some.injEq] at hOtherSpec
          subst hOtherCell hOtherSpec
          rw [hType, Except.ok.injEq] at hOtherType
          subst hOtherType
          rw [Except.error.inj (hFault.symm.trans hOtherFault)]

/-- Of two errors that report a first fault neither is the earlier one. -/
theorem FirstFault.unique {document : Document} {a b : Error} (hLeft : FirstFault document a)
    (hRight : FirstFault document b) : a = b := by
  obtain ⟨item, hFaulty, hFirst⟩ := hLeft
  obtain ⟨other, hOther, hOtherFirst⟩ := hRight
  rcases item.before_trichotomy other with hBefore | rfl | hBefore
  · exact absurd hFaulty (hOtherFirst item hBefore a)
  · exact hFaulty.unique hOther
  · exact absurd hOther (hFirst other hBefore b)

section

variable {document : Document} {columns : List Column}

theorem toColumn_eq_ok_iff {spec : ColumnSpec} {column : Column} :
    toColumn spec = .ok column ↔
      column.name = spec.name ∧ ValueType.parse spec.type = .ok column.type := by
  obtain ⟨name, type⟩ := column
  rw [toColumn, bind_eq_ok_iff]
  constructor
  · rintro ⟨parsed, hParsed, hColumn⟩
    obtain ⟨rfl, rfl⟩ := Column.mk.inj (Except.ok.inj hColumn)
    exact ⟨rfl, hParsed⟩
  · rintro ⟨rfl, hParsed⟩
    exact ⟨type, hParsed, rfl⟩

/-- A column of the document, and that of the table in its place. -/
theorem exists_column_of_getElem? (h : document.columns.mapM toColumn = .ok columns) {index : Nat}
    {spec : ColumnSpec} (hSpec : document.columns[index]? = some spec) :
    ∃ column, columns[index]? = some column ∧ column.name = spec.name ∧
      ValueType.parse spec.type = .ok column.type := by
  have hAll := mapM_eq_ok_iff.mp h
  obtain ⟨hIndex, rfl⟩ := List.getElem?_eq_some_iff.mp hSpec
  have hColumn : index < columns.length := hAll.length_eq ▸ hIndex
  exact ⟨columns[index], List.getElem?_eq_getElem hColumn,
    toColumn_eq_ok_iff.mp ((List.forall₂_iff_get.mp hAll).2 index hIndex hColumn)⟩

theorem length_columns (h : document.columns.mapM toColumn = .ok columns) :
    columns.length = document.columns.length :=
  (mapM_eq_ok_iff.mp h).length_eq.symm

/-- Columns that are converted have no faulty type. -/
theorem not_faulty_columnType (h : document.columns.mapM toColumn = .ok columns) (index : Nat)
    (e : Error) : ¬ Faulty document (.columnType index) e := by
  intro hFaulty
  cases hFaulty with
  | columnType hSpec hFault =>
      obtain ⟨column, -, -, hType⟩ := exists_column_of_getElem? h hSpec
      rw [hFault] at hType
      cases hType

/-- A row of the right length has no faulty length. -/
theorem not_faulty_rowLength {place : Nat} {cells : List Json}
    (hRow : document.rows[place]? = some cells) (hLength : cells.length = document.columns.length)
    (e : Error) : ¬ Faulty document (.rowLength place) e := by
  intro hFaulty
  cases hFaulty with
  | rowLength hOther hFault =>
      obtain rfl := Option.some.inj (hRow.symm.trans hOther)
      exact hFault hLength

/-- A cell that is converted to the type of its column is not faulty. -/
theorem not_faulty_cell (h : document.columns.mapM toColumn = .ok columns) {place index : Nat}
    {cells : List Json} (hRow : document.rows[place]? = some cells)
    (hConverted : ∀ pair, (columns.zip cells)[index]? = some pair →
      ∃ cell, pair.2.toCell pair.1.type = .ok cell) (e : Error) :
    ¬ Faulty document (.cell place index) e := by
  intro hFaulty
  cases hFaulty with
  | cell hOther hCell hSpec hType hFault =>
      obtain rfl := Option.some.inj (hRow.symm.trans hOther)
      obtain ⟨column, hColumn, -, hColumnType⟩ := exists_column_of_getElem? h hSpec
      obtain rfl := Except.ok.inj (hType.symm.trans hColumnType)
      obtain ⟨cell, hOk⟩ := hConverted (column, _) (List.getElem?_zip_eq_some.mpr ⟨hColumn, hCell⟩)
      rw [hFault] at hOk
      cases hOk

/-- Neither the length nor a cell of the row at this place is faulty. -/
def Faultless (document : Document) (place : Nat) : Prop :=
  (∀ e, ¬ Faulty document (.rowLength place) e) ∧
    ∀ index e, ¬ Faulty document (.cell place index) e

theorem faultless_of_converts (h : document.columns.mapM toColumn = .ok columns) {place : Nat}
    (hConverts : ∀ cells, document.rows[place]? = some cells → ∃ row, Converts columns cells row) :
    Faultless document place := by
  constructor
  · intro e hFaulty
    obtain ⟨cells, hRow⟩ : ∃ cells, document.rows[place]? = some cells := by
      cases hFaulty with
      | rowLength hRow _ => exact ⟨_, hRow⟩
    obtain ⟨row, hLength, -⟩ := hConverts cells hRow
    exact not_faulty_rowLength hRow (hLength.trans (length_columns h)) e hFaulty
  · intro index e hFaulty
    obtain ⟨cells, hRow⟩ : ∃ cells, document.rows[place]? = some cells := by
      cases hFaulty with
      | cell hRow _ _ _ _ => exact ⟨_, hRow⟩
    obtain ⟨row, -, hCells⟩ := hConverts cells hRow
    refine not_faulty_cell h hRow (fun pair hPair => ?_) e hFaulty
    obtain ⟨hIndex, rfl⟩ := List.getElem?_eq_some_iff.mp hPair
    exact ⟨_, (List.forall₂_iff_get.mp hCells).2 index hIndex (hCells.length_eq ▸ hIndex)⟩

end

/-- A document that is converted has no faulty item. -/
theorem not_faulty_of_toTable {document : Document} {columns : List Column} {rows : List Row}
    (h : document.toTable = .ok (columns, rows)) (item : Item) (e : Error) :
    ¬ Faulty document item e := by
  obtain ⟨hColumns, hRows⟩ := toTable_eq_ok_iff.mp h
  have hFaultless (place : Nat) : Faultless document place := by
    refine faultless_of_converts hColumns fun cells hAt => ?_
    obtain ⟨hPlace, rfl⟩ := List.getElem?_eq_some_iff.mp hAt
    exact ⟨_, (List.forall₂_iff_get.mp hRows).2 place hPlace (hRows.length_eq ▸ hPlace)⟩
  cases item with
  | columnType index => exact not_faulty_columnType hColumns index e
  | rowLength place => exact (hFaultless place).1 e
  | cell place index => exact (hFaultless place).2 index e

theorem toCells_eq_error_iff {rowIndex index : Nat} {columns : List Column} {cells : List Json}
    {e : Error} :
    toCells rowIndex index columns cells = .error e ↔
      ∃ place, FailsAt (fun k pair => atCell rowIndex k (Json.toCell pair.2 pair.1.type)) index
        (columns.zip cells) place e := by
  induction columns generalizing index cells with
  | nil => simp [toCells, not_failsAt_nil]
  | cons column columns ih =>
      cases cells with
      | nil => simp [toCells, not_failsAt_nil]
      | cons json cells =>
          rw [toCells, bind_eq_error_iff, List.zip_cons_cons, exists_failsAt_cons_iff]
          simp only [bind_ok_eq_error_iff, ih]

theorem toRows_eq_error_iff {columns : List Column} {index : Nat} {cellRows : List (List Json)}
    {e : Error} :
    toRows columns index cellRows = .error e ↔
      ∃ place, FailsAt (toRow columns) index cellRows place e := by
  induction cellRows generalizing index with
  | nil => simp [toRows, not_failsAt_nil]
  | cons cells cellRows ih =>
      rw [toRows, bind_eq_error_iff, exists_failsAt_cons_iff]
      simp only [bind_ok_eq_error_iff, ih]

theorem toRow_eq_error_iff {columns : List Column} {rowIndex : Nat} {cells : List Json}
    {e : Error} :
    toRow columns rowIndex cells = .error e ↔
      (cells.length ≠ columns.length ∧
        e = ⟨.rowLength rowIndex cells.length columns.length, none⟩) ∨
      (cells.length = columns.length ∧ toCells rowIndex 0 columns cells = .error e) := by
  rw [toRow]
  split
  · next h => simp [h]
  · next h => simp [h, failure, eq_comm]

section

variable {document : Document} {columns : List Column}

/-- The type of a column that is converted is that of its declaration. -/
theorem exists_spec_of_getElem? (h : document.columns.mapM toColumn = .ok columns) {index : Nat}
    {column : Column} (hColumn : columns[index]? = some column) :
    ∃ spec, document.columns[index]? = some spec ∧
      ValueType.parse spec.type = .ok column.type := by
  obtain ⟨hIndex, -⟩ := List.getElem?_eq_some_iff.mp hColumn
  have hSpec := List.getElem?_eq_getElem (length_columns h ▸ hIndex)
  obtain ⟨other, hOther, -, hType⟩ := exists_column_of_getElem? h hSpec
  obtain rfl := Option.some.inj (hColumn.symm.trans hOther)
  exact ⟨_, hSpec, hType⟩

/-- If the first row that fails has a wrong length, this is the first fault. -/
theorem firstFault_of_length (h : document.columns.mapM toColumn = .ok columns) {place : Nat}
    {cells : List Json} (hRow : document.rows[place]? = some cells)
    (hLength : cells.length ≠ columns.length)
    (hAbove : ∀ above < place, Faultless document above) :
    FirstFault document ⟨.rowLength place cells.length columns.length, none⟩ := by
  rw [length_columns h] at hLength ⊢
  refine ⟨.rowLength place, .rowLength hRow hLength, fun earlier hBefore e => ?_⟩
  cases earlier with
  | columnType index => exact not_faulty_columnType h index e
  | rowLength above => exact (hAbove above hBefore).1 e
  | cell above index => exact (hAbove above hBefore).2 index e

/-- If the first row that fails has the right length, its first cell that fails is the first
fault. -/
theorem firstFault_of_cell (h : document.columns.mapM toColumn = .ok columns) {place : Nat}
    {cells : List Json} (hRow : document.rows[place]? = some cells)
    (hLength : cells.length = columns.length)
    (hAbove : ∀ above < place, Faultless document above) {e : Error}
    (hFails : toCells place 0 columns cells = .error e) : FirstFault document e := by
  obtain ⟨index, ⟨pair, hPair, hFails⟩, hFirst⟩ := toCells_eq_error_iff.mp hFails
  obtain ⟨raw, hRaw, rfl⟩ := atCell_eq_error_iff.mp hFails
  obtain ⟨hColumn, hCell⟩ := List.getElem?_zip_eq_some.mp hPair
  obtain ⟨spec, hSpec, hType⟩ := exists_spec_of_getElem? h hColumn
  rw [Nat.zero_add]
  refine ⟨.cell place index, .cell hRow hCell hSpec hType hRaw, fun earlier hBefore e => ?_⟩
  cases earlier with
  | columnType index => exact not_faulty_columnType h index e
  | rowLength above =>
      rcases Nat.lt_or_eq_of_le hBefore with hLt | rfl
      · exact (hAbove above hLt).1 e
      · exact not_faulty_rowLength hRow (hLength.trans (length_columns h)) e
  | cell above left =>
      rcases hBefore with hLt | ⟨rfl, hLeft⟩
      · exact (hAbove above hLt).2 left e
      · refine not_faulty_cell h hRow (fun other hOther => ?_) e
        obtain ⟨cell, hPasses⟩ := hFirst left hLeft other hOther
        exact ⟨cell, atCell_eq_ok_iff.mp hPasses⟩

end

/-- What stops the conversion is the first fault. -/
theorem firstFault_of_toTable {document : Document} {e : Error}
    (h : document.toTable = .error e) : FirstFault document e := by
  rcases bind_eq_error_iff.mp h with hColumns | ⟨columns, hColumns, hRest⟩
  · obtain ⟨index, ⟨spec, hSpec, hFails⟩, hFirst⟩ :=
      (@mapM_eq_error_iff _ _ _ toColumn 0 _ e).mp hColumns
    refine ⟨.columnType index, .columnType hSpec (bind_ok_eq_error_iff.mp hFails), ?_⟩
    intro earlier hBefore other hFaulty
    cases hFaulty with
    | columnType hOther hFault =>
        obtain ⟨column, hPasses⟩ := hFirst _ hBefore _ hOther
        rw [(toColumn_eq_ok_iff.mp hPasses).2] at hFault
        cases hFault
    | rowLength _ _ => cases hBefore
    | cell _ _ _ _ _ => cases hBefore
  · rw [bind_ok_eq_error_iff, toRows_eq_error_iff] at hRest
    obtain ⟨place, ⟨cells, hRow, hFails⟩, hFirst⟩ := hRest
    have hAbove (above : Nat) (hLt : above < place) : Faultless document above := by
      refine faultless_of_converts hColumns fun cells hAt => ?_
      obtain ⟨row, hPasses⟩ := hFirst above hLt cells hAt
      exact ⟨row, toRow_eq_ok_iff.mp hPasses⟩
    rw [Nat.zero_add] at hFails
    rcases toRow_eq_error_iff.mp hFails with ⟨hLength, rfl⟩ | ⟨hLength, hCells⟩
    · exact firstFault_of_length hColumns hRow hLength hAbove
    · exact firstFault_of_cell hColumns hRow hLength hAbove hCells

/-- The conversion fails exactly with the error of the first fault. -/
theorem toTable_eq_error_iff {document : Document} {e : Error} :
    document.toTable = .error e ↔ FirstFault document e := by
  refine ⟨firstFault_of_toTable, fun hFirst => ?_⟩
  cases hTable : document.toTable with
  | ok table =>
      obtain ⟨item, hFaulty, -⟩ := hFirst
      exact absurd hFaulty (not_faulty_of_toTable hTable item e)
  | error other => rw [(firstFault_of_toTable hTable).unique hFirst]

/-- A row of the table that has, under its columns, the cells of a row of the document. -/
structure TypedRow (columns : List Column) (cells : List Json) (row : Row) : Prop where
  length_cells : cells.length = columns.length
  length_row : row.length = columns.length
  cell : ∀ (index : Nat) (column : Column) (json : Json) (cell : Cell),
    columns[index]? = some column → cells[index]? = some json → row[index]? = some cell →
      json.toCell column.type = .ok cell ∧ (cell = none ↔ json = .null) ∧ cell.HasType column.type

theorem Converts.typedRow {columns : List Column} {cells : List Json} {row : Row}
    (h : Converts columns cells row) : TypedRow columns cells row where
  length_cells := h.1
  length_row := h.matches.length_eq.symm
  cell := by
    intro index column json cell hColumn hJson hCell
    have hZip : (columns.zip cells)[index]? = some (column, json) :=
      List.getElem?_zip_eq_some.mpr ⟨hColumn, hJson⟩
    obtain ⟨hIndex, hPair⟩ := List.getElem?_eq_some_iff.mp hZip
    obtain ⟨hCellIndex, rfl⟩ := List.getElem?_eq_some_iff.mp hCell
    have hConverted : json.toCell column.type = .ok row[index] := by
      have hAt := (List.forall₂_iff_get.mp h.2).2 index hIndex hCellIndex
      simpa [hPair] using hAt
    exact ⟨hConverted, Json.eq_none_iff_of_toCell hConverted, Json.hasType_of_toCell hConverted⟩

/-- The table has a column of the same name and of the declared type per column of the document, and
a typed row per row. It is valid, so that it is rendered whatever the options. -/
structure TypedTable (document : Document) (columns : List Column) (rows : List Row) : Prop where
  typed_columns : List.Forall₂ (fun spec column =>
    column.name = spec.name ∧ ValueType.parse spec.type = .ok column.type) document.columns columns
  typed_rows : List.Forall₂ (TypedRow columns) document.rows rows
  valid : Table.validate columns rows = .ok ()
  rendered : ∀ options, ∃ text, Table.render options columns rows = .ok text

theorem typedTable_of_toTable {document : Document} {columns : List Column} {rows : List Row}
    (h : document.toTable = .ok (columns, rows)) : TypedTable document columns rows where
  typed_columns :=
    (mapM_eq_ok_iff.mp (toTable_eq_ok_iff.mp h).1).imp fun _ _ => toColumn_eq_ok_iff.mp
  typed_rows := (toTable_eq_ok_iff.mp h).2.imp fun _ _ => Converts.typedRow
  valid := validate_of_toTable h
  rendered := by
    obtain ⟨layouts, -, -, -, hRender⟩ := Table.render_of_validate (validate_of_toTable h)
    exact fun options => ⟨_, hRender options⟩

/-- What is wrong with a column's type or a row's length concerns no cell. -/
theorem Faulty.position_eq_none {document : Document} {item : Item} {e : Error}
    (h : Faulty document item e) (hItem : ∀ place index, item ≠ .cell place index) :
    e.position = none := by
  cases h with
  | columnType hSpec hFault => exact ValueType.unplaced_parse _ _ hFault
  | rowLength hRow hFault => rfl
  | cell hRow hCell hSpec hType hFault => exact absurd rfl (hItem _ _)

/-- What is wrong with a cell is reported with the error that is raised inside it, placed at the
cell. -/
theorem Faulty.placedAt {document : Document} {place index : Nat} {e : Error}
    (h : Faulty document (.cell place index) e) :
    ∃ cells json spec type raw, document.rows[place]? = some cells ∧ cells[index]? = some json ∧
      document.columns[index]? = some spec ∧ ValueType.parse spec.type = .ok type ∧
        json.toCell type = .error raw ∧ e.PlacedAt raw ⟨place, index⟩ := by
  cases h with
  | cell hRow hCell hSpec hType hFault =>
      exact ⟨_, _, _, _, _, hRow, hCell, hSpec, hType, hFault,
        Error.placedAt_at (Json.unplaced_toCell _ _ _ hFault) _⟩

/-- The conversion of a document gives a typed table, or it fails with the error of the first faulty
item: of the types of the columns from the left, then of the rows from the top, and in a row of its
length and then of its cells from the left. Only the error of a cell has a position, that of the
cell; and the words behind which it stands are those of the error that was raised inside the cell,
in an inventory by the first faulty position, and in a position by its units before its cost. -/
theorem typed_or_first_fault (document : Document) :
    (∀ columns rows, document.toTable = .ok (columns, rows) → TypedTable document columns rows) ∧
    (∀ e, document.toTable = .error e ↔ FirstFault document e) ∧
    (∀ item e, Faulty document item e → (∀ place index, item ≠ .cell place index) →
      e.position = none) ∧
    (∀ place index e, Faulty document (.cell place index) e →
      ∃ cells json spec type raw, document.rows[place]? = some cells ∧ cells[index]? = some json ∧
        document.columns[index]? = some spec ∧ ValueType.parse spec.type = .ok type ∧
          json.toCell type = .error raw ∧ e.PlacedAt raw ⟨place, index⟩) ∧
    (∀ elements raw, (Json.array elements).toCell .inventory = .error raw ↔
      ∃ element, FailsAt (fun _ => Json.toPosition) 0 elements element raw) ∧
    (∀ members raw, (Json.object members).toPosition = .error raw ↔
      (Json.object members).toAmount = .error raw ∨
        (∃ units, (Json.object members).toAmount = .ok units) ∧
          ∃ cost, (Json.object members).member? "cost" = some cost ∧ cost ≠ .null ∧
            cost.toAmount = .error raw) := by
  refine ⟨?_, ?_, ?_, ?_, ?_, ?_⟩
  · intro columns rows hTable
    exact typedTable_of_toTable hTable
  · intro e
    exact toTable_eq_error_iff
  · intro item e hFaulty hItem
    exact hFaulty.position_eq_none hItem
  · intro place index e hFaulty
    exact hFaulty.placedAt
  · intro elements raw
    exact Json.toCell_inventory_eq_error_iff
  · intro members raw
    exact Json.toPosition_object_eq_error_iff

/-- A number inside the cost of the second position of a cell is reported with the position of
the cell, before the row below, which is too short. -/
theorem fault_inside_cost_above_short_row :
    ∃ e, FirstFault
        ⟨[⟨"held", "inventory"⟩],
          [[.array [.string "1 EUR",
            .object [("number", .number "2"), ("currency", .string "HOOL"),
              ("cost",
                .object [("number", .string "ten"), ("currency", .string "EUR")])]]], []]⟩ e ∧
      e.position = some ⟨0, 0⟩ ∧
      e.message = "invalid or unrepresentable decimal number 'ten' at row=0, col=0" :=
  ⟨⟨.invalidDecimal "ten", some ⟨0, 0⟩⟩, ((typed_or_first_fault _).2.1 _).mp rfl, rfl, rfl⟩

end Document

end Tabular
