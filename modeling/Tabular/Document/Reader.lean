import Tabular.Document.Basic
import Tabular.Json.Record

/-!
Reading a result document from JSON. Both the document and its columns are records of two fields.
-/

namespace Tabular.Document

open Json

/-- How a column is read. Both of its fields are required. -/
def columnShape : RecordShape String String where
  name := "ColumnSpec"
  firstName := "name"
  first := Cursor.string
  secondName := "type"
  second := Cursor.string
  absent := none

/-- Read a column. -/
def readColumn (c : Cursor) : Except Fault (ColumnSpec × Cursor) := do
  let ((name, type), c) ← columnShape.read c
  .ok (⟨name, type⟩, c)

/-- How deep the value of a cell may be nested: the document, its rows and the row are open around
it. -/
def cellDepth : Nat := Cursor.maxDepth - 3

/-- Read a row. -/
def readRow (c : Cursor) : Except Fault (List Json × Cursor) :=
  c.array (Cursor.value cellDepth)

/-- How a document is read. Without rows it has none. -/
def shape : RecordShape (List ColumnSpec) (List (List Json)) where
  name := "ResultDocument"
  firstName := "columns"
  first := Cursor.array readColumn
  secondName := "rows"
  second := Cursor.array readRow
  absent := some []

/-- Read a document that is the whole text. -/
def parse (text : String) : Except Fault Document := do
  let ((columns, rows), c) ← shape.read (Cursor.start text)
  c.finish
  .ok ⟨columns, rows⟩

end Tabular.Document
