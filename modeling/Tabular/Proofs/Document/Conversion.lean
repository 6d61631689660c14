import Tabular.Document.Conversion
import Tabular.Proofs.Table.Learning

/-!
The table that a document is converted to: its rows are those of the document, cell by cell, and
they are valid.
-/

namespace Tabular

/-- A value is converted to a cell of the type that it is converted to. -/
theorem Json.hasType_of_toCell {json : Json} {type : ValueType} {cell : Cell}
    (h : json.toCell type = .ok cell) : cell.HasType type := by
  have hValue {value : Value} (hConverted : json.toValue type = .ok value) : value.type = type := by
    cases type with
    | string | date | decimal | position | inventory =>
        obtain ⟨_, -, hOk⟩ := bind_eq_ok_iff.mp hConverted
        obtain rfl := Except.ok.inj hOk
        rfl
  unfold toCell at h
  split at h
  · obtain rfl := Except.ok.inj h
    rintro value ⟨⟩
  · obtain ⟨value, hConverted, hOk⟩ := bind_eq_ok_iff.mp h
    obtain rfl := Except.ok.inj hOk
    intro other hOther
    obtain rfl := Option.some.inj hOther
    exact hValue hConverted

theorem Json.toCell_of_ne_null {json : Json} (h : json ≠ .null) (type : ValueType) :
    json.toCell type = json.toValue type >>= fun value => .ok (some value) := by
  cases json with
  | null => exact absurd rfl h
  | bool | number | string | array | object => rfl

/-- A member `cost` that is not null is an amount. -/
theorem Json.toCost_of_ne_null {members : List (String × Json)} {paid : Json}
    (hMember : members.lookup "cost" = some paid) (hNull : paid ≠ .null) :
    toCost (.object members) = paid.toAmount >>= fun amount => .ok (some amount) := by
  rw [toCost, member?, hMember]
  cases paid with
  | null => exact absurd rfl hNull
  | bool | number | string | array | object => rfl

namespace Document

/-- The cells of a row are those of the table's row, each converted to the type of its column. -/
def Converts (columns : List Column) (cells : List Json) (row : Row) : Prop :=
  cells.length = columns.length ∧
    List.Forall₂ (fun pair cell => Json.toCell pair.2 pair.1.type = .ok cell)
      (columns.zip cells) row

theorem toCells_eq_ok_iff {rowIndex index : Nat} {columns : List Column} {cells : List Json}
    {row : Row} :
    toCells rowIndex index columns cells = .ok row ↔
      List.Forall₂ (fun pair cell => Json.toCell pair.2 pair.1.type = .ok cell)
        (columns.zip cells) row := by
  induction columns generalizing index cells row with
  | nil => cases row <;> simp [toCells]
  | cons column columns ih =>
      cases cells with
      | nil => cases row <;> simp [toCells]
      | cons json cells =>
          rw [toCells, bind_eq_ok_iff, List.zip_cons_cons]
          simp only [atCell_eq_ok_iff, bind_eq_ok_iff, ih, Except.ok.injEq]
          constructor
          · rintro ⟨cell, hCell, rest, hRest, rfl⟩
            exact .cons hCell hRest
          · intro h
            cases h with
            | cons hCell hRest => exact ⟨_, hCell, _, hRest, rfl⟩

theorem toRow_eq_ok_iff {columns : List Column} {rowIndex : Nat} {cells : List Json} {row : Row} :
    toRow columns rowIndex cells = .ok row ↔ Converts columns cells row := by
  rw [toRow, Converts]
  split
  · next h => simp [h, toCells_eq_ok_iff]
  · next h => simp [h, failure]

theorem toRows_eq_ok_iff {columns : List Column} {index : Nat} {cellRows : List (List Json)}
    {rows : List Row} :
    toRows columns index cellRows = .ok rows ↔ List.Forall₂ (Converts columns) cellRows rows := by
  induction cellRows generalizing index rows with
  | nil => cases rows <;> simp [toRows]
  | cons cells cellRows ih =>
      rw [toRows, bind_eq_ok_iff]
      simp only [toRow_eq_ok_iff, bind_eq_ok_iff, ih, Except.ok.injEq]
      constructor
      · rintro ⟨row, hRow, rest, hRest, rfl⟩
        exact .cons hRow hRest
      · intro h
        cases h with
        | cons hRow hRest => exact ⟨_, hRow, _, hRest, rfl⟩

/-- A table is that of a document if its columns and its rows are converted one by one. -/
theorem toTable_eq_ok_iff {document : Document} {columns : List Column} {rows : List Row} :
    document.toTable = .ok (columns, rows) ↔
      document.columns.mapM toColumn = .ok columns ∧
        List.Forall₂ (Converts columns) document.rows rows := by
  rw [toTable, bind_eq_ok_iff]
  simp only [bind_eq_ok_iff, toRows_eq_ok_iff, Except.ok.injEq, Prod.mk.injEq]
  constructor
  · rintro ⟨_, hColumns, _, hRows, rfl, rfl⟩
    exact ⟨hColumns, hRows⟩
  · rintro ⟨hColumns, hRows⟩
    exact ⟨columns, hColumns, rows, hRows, rfl, rfl⟩

theorem parseTable_eq_ok_iff {text : String} {table : List Column × List Row} :
    parseTable text = .ok table ↔
      ∃ document, parse text = .ok document ∧ document.toTable = .ok table := by
  rw [parseTable]
  split
  · next document hParse => simp [hParse]
  · next fault hParse => simp [hParse, failure]

theorem Converts.matches {columns : List Column} {cells : List Json} {row : Row}
    (h : Converts columns cells row) : Table.Matches columns row := by
  obtain ⟨hLength, hCells⟩ := h
  have hZip : (columns.zip cells).length = columns.length := by
    rw [List.length_zip, hLength, Nat.min_self]
  refine List.forall₂_iff_get.mpr ⟨hZip.symm.trans hCells.length_eq, ?_⟩
  intro index hColumn hCell
  have hAt := (List.forall₂_iff_get.mp hCells).2 index (hZip ▸ hColumn) hCell
  simpa using Json.hasType_of_toCell hAt

/-- The table of a document is valid. -/
theorem validate_of_toTable {document : Document} {columns : List Column} {rows : List Row}
    (h : document.toTable = .ok (columns, rows)) : Table.validate columns rows = .ok () := by
  obtain ⟨-, hRows⟩ := toTable_eq_ok_iff.mp h
  refine Table.validate_eq_ok_iff.mpr fun row hRow => ?_
  obtain ⟨index, hIndex, rfl⟩ := List.getElem_of_mem hRow
  have hCells : index < document.rows.length := hRows.length_eq ▸ hIndex
  exact ((List.forall₂_iff_get.mp hRows).2 index hCells hIndex).matches

end Document

end Tabular
