import Tabular.Document.Reader
import Tabular.Proofs.Json.Record

/-!
The rows of a document stand in its text, by the grammar of JSON: as an array of arrays of values.
-/

namespace Tabular.Document

open Json

/-- An array of rows, each of which is an array of values. -/
abbrev RowsText (raw : List Char) (rows : List (List Json)) : Prop :=
  ArrayText (ArrayText Written) raw rows

theorem gives_readColumn (c : Cursor) : Gives (readColumn c) fun r => r.2.Ends c := by
  have hString (c : Cursor) : Gives c.string (Cursor.Takes (fun _ _ => True) c) :=
    fun r h => Cursor.takes_of_ends (Cursor.gives_string c r h)
  refine gives_bind fun ⟨⟨name, type⟩, place⟩ hRead => gives_ok ?_
  exact (RecordShape.gives_read Cursor.gives_string hString c _ hRead).1

theorem gives_columns (c : Cursor) : Gives (shape.first c) fun r => r.2.Ends c := by
  have hColumn (c : Cursor) : Gives (readColumn c) (Cursor.Takes (fun _ _ => True) c) :=
    fun r h => Cursor.takes_of_ends (gives_readColumn c r h)
  exact fun r h => (Cursor.gives_array hColumn c r h).ends

theorem gives_rows (c : Cursor) : Gives (shape.second c) (Cursor.Takes RowsText c) :=
  Cursor.gives_array (Cursor.gives_array (Cursor.gives_value cellDepth)) c

/-- The rows that are read stand in the text of the document. Without such a text there are none. -/
theorem rowsText_of_parse {text : String} {document : Document} (h : parse text = .ok document) :
    document.rows = [] ∨ ∃ raw, raw <:+: text.toList ∧ RowsText raw document.rows := by
  obtain ⟨⟨⟨columns, rows⟩, place⟩, hRead, hDocument⟩ := bind_eq_ok_iff.mp h
  obtain ⟨-, hDocument⟩ := check_bind_eq_ok_iff.mp hDocument
  obtain rfl := Except.ok.inj hDocument
  rcases (RecordShape.gives_read gives_columns gives_rows _ _ hRead).2 with hMissing | hSome
  · exact Or.inl (Option.some.inj hMissing).symm
  · exact Or.inr hSome

/-- Every value of a document has a text. -/
theorem exists_written_of_parse {text : String} {document : Document}
    (h : parse text = .ok document) {row : List Json} (hRow : row ∈ document.rows) {json : Json}
    (hMem : json ∈ row) : ∃ raw, Written raw json := by
  rcases rowsText_of_parse h with hNone | ⟨raw, -, hRows⟩
  · rw [hNone] at hRow
    cases hRow
  · obtain ⟨inner, hText⟩ := hRows.exists_of_mem hRow
    exact hText.exists_of_mem hMem

end Tabular.Document
