import Tabular.Proofs.Document.Reader
import Tabular.Proofs.Document.Sources
import Tabular.Proofs.Layout.Shown
import Tabular.Proofs.Table.Body

/-!
From the text of a document to the lines of its table no number is changed: what stands in a field
denotes the number that the text of the document denotes, and has its sign.
-/

namespace Tabular

open Table

/-- The field stands in the column of this index in the line of this index. -/
def Table.StandsAt (lines : List String) (widths : List Nat) (line column : Nat) (field : String) :
    Prop :=
  ∃ fields, lines[line]? = some (barred widths fields) ∧ fields[column]? = some field

/-- The texts of the numbers of a cell are as many as the positions of an inventory, or there is
one. -/
theorem Cell.DenotedBy.length_le {cell : Cell} {texts : List NumberTexts}
    (h : cell.DenotedBy texts) : texts.length ≤ max 1 cell.positions.length := by
  rcases cell with _ | value
  · obtain rfl : texts = [] := h
    exact Nat.zero_le _
  · cases value with
    | string text =>
        obtain rfl : texts = [] := h
        exact Nat.zero_le _
    | date day =>
        obtain rfl : texts = [] := h
        exact Nat.zero_le _
    | decimal number =>
        obtain ⟨text, rfl, -⟩ := h
        exact Nat.le_max_left _ _
    | position held =>
        obtain ⟨text, rfl, -⟩ := h
        exact Nat.le_max_left _ _
    | inventory held =>
        have hAll : List.Forall₂ Position.DenotedBy held.positions texts := h
        exact hAll.length_eq ▸ Nat.le_max_right _ _

namespace Document

/-- A value of the document, and what the table has in its place. -/
theorem exists_cell_of_getElem? {document : Document} {columns : List Column} {rows : List Row}
    (h : document.toTable = .ok (columns, rows)) {place index : Nat} {cells : List Json}
    {json : Json} (hCells : document.rows[place]? = some cells)
    (hJson : cells[index]? = some json) :
    ∃ row column cell, rows[place]? = some row ∧ columns[index]? = some column ∧
      row[index]? = some cell ∧ json.toCell column.type = .ok cell := by
  obtain ⟨-, hRows⟩ := toTable_eq_ok_iff.mp h
  obtain ⟨hPlace, rfl⟩ := List.getElem?_eq_some_iff.mp hCells
  obtain ⟨hIndex, rfl⟩ := List.getElem?_eq_some_iff.mp hJson
  have hRow : place < rows.length := hRows.length_eq ▸ hPlace
  obtain ⟨hLength, hConverted⟩ := (List.forall₂_iff_get.mp hRows).2 place hPlace hRow
  have hColumn : index < columns.length := hLength ▸ hIndex
  have hZip : index < (columns.zip (document.rows.get ⟨place, hPlace⟩)).length := by
    rw [List.length_zip]
    exact Nat.lt_min.mpr ⟨hColumn, hIndex⟩
  have hCell := hConverted.length_eq ▸ hZip
  have hAt := (List.forall₂_iff_get.mp hConverted).2 index hZip hCell
  refine ⟨_, _, _, List.getElem?_eq_getElem hRow, List.getElem?_eq_getElem hColumn,
    List.getElem?_eq_getElem hCell, ?_⟩
  simpa using hAt

end Document

end Tabular
