import Tabular.Proofs.Table.Body

/-!
A rendered table is a rectangle: all of its lines have one width, however they end, and the bars
between the fields stand where the borders have their crosses.
-/

namespace Tabular.Table

theorem width_le_frameWidth (showNames : Bool) (layout : ColumnLayout) (column : Column) :
    layout.width ≤ frameWidth showNames layout column := by
  rw [frameWidth]
  split
  · exact Nat.le_max_left _ _
  · exact Nat.le_refl _

/-- Every line of a row that the layouts hold has room in the frame. -/
theorem haveRoom_rowLine {layouts : List ColumnLayout} {row : Row}
    (h : List.Forall₂ ColumnLayout.Holds layouts row) {columns : List Column}
    (hLength : layouts.length = columns.length) (showNames : Bool) (index : Nat) :
    HaveRoom (frameWidths showNames layouts columns) (rowLine layouts row index) := by
  induction h generalizing columns with
  | nil => exact .nil
  | @cons layout cell layouts row hCell hRest ih =>
      cases columns with
      | nil => cases hLength
      | cons column columns =>
          refine .cons ?_ (ih (Nat.succ.inj hLength))
          rw [ColumnLayout.width_fieldAt hCell.isSettled hCell.seen]
          exact width_le_frameWidth showNames layout column

/-- Names that are shown have room in the frame, since columns are widened for them. -/
theorem haveRoom_names {layouts : List ColumnLayout} {columns : List Column}
    (h : layouts.length = columns.length) :
    HaveRoom (frameWidths true layouts columns) (columns.map Column.name) := by
  induction columns generalizing layouts with
  | nil =>
      rw [List.length_nil, List.length_eq_zero_iff] at h
      subst h
      exact .nil
  | cons column columns ih =>
      cases layouts with
      | nil => cases h
      | cons layout layouts => exact .cons (Nat.le_max_right _ _) (ih (Nat.succ.inj h))

/-- The lines between the borders all have room in the frame. -/
theorem haveRoom_of_mem {layouts : List ColumnLayout} {columns : List Column} {rows : List Row}
    (hLength : layouts.length = columns.length)
    (hHolds : ∀ row ∈ rows, List.Forall₂ ColumnLayout.Holds layouts row) {showNames : Bool}
    {fields : Line}
    (h : fields ∈ (shownNames showNames columns).toList ++ rows.flatMap (rowLines layouts)) :
    HaveRoom (frameWidths showNames layouts columns) fields := by
  rcases List.mem_append.mp h with hName | hBody
  · cases showNames with
    | false => simp [shownNames] at hName
    | true =>
        obtain rfl : fields = columns.map Column.name := by simpa [shownNames] using hName
        exact haveRoom_names hLength
  · obtain ⟨row, hRow, hLine⟩ := List.mem_flatMap.mp hBody
    obtain ⟨index, -, rfl⟩ := List.mem_map.mp hLine
    exact haveRoom_rowLine (hHolds row hRow) hLength showNames index

/-- The borders of a frame: above all, above the body, and below. -/
def borders (widths : List Nat) : List String :=
  [border ',' '.' widths, border '+' '+' widths, border '\x60' '\'' widths]

theorem exists_corners_of_mem_borders {widths : List Nat} {line : String}
    (h : line ∈ borders widths) :
    ∃ left right, Text.separates left = true ∧ Text.separates right = true ∧
      line = border left right widths := by
  simp only [borders, List.mem_cons, List.not_mem_nil, or_false] at h
  rcases h with rfl | rfl | rfl
  · exact ⟨',', '.', by decide, by decide, rfl⟩
  · exact ⟨'+', '+', by decide, by decide, rfl⟩
  · exact ⟨'\x60', '\'', by decide, by decide, rfl⟩

/-- A line of a framed table is one of its borders or has bars around fields. -/
theorem mem_framed_iff {widths : List Nat} {names : Option Line} {body : List Line}
    {line : String} :
    line ∈ framed widths names body ↔
      line ∈ borders widths ∨ ∃ fields ∈ names.toList ++ body, barred widths fields = line := by
  simp only [framed, borders, List.mem_append, List.mem_cons, List.not_mem_nil, or_false,
    List.mem_map]
  constructor
  · rintro ((((rfl | ⟨fields, hMem, rfl⟩) | rfl) | ⟨fields, hMem, rfl⟩) | rfl)
    · exact Or.inl (Or.inl rfl)
    · exact Or.inr ⟨fields, Or.inl hMem, rfl⟩
    · exact Or.inl (Or.inr (Or.inl rfl))
    · exact Or.inr ⟨fields, Or.inr hMem, rfl⟩
    · exact Or.inl (Or.inr (Or.inr rfl))
  · rintro ((rfl | rfl | rfl) | ⟨fields, hMem | hMem, rfl⟩)
    · exact Or.inl (Or.inl (Or.inl (Or.inl rfl)))
    · exact Or.inl (Or.inl (Or.inr rfl))
    · exact Or.inr rfl
    · exact Or.inl (Or.inl (Or.inl (Or.inr ⟨fields, hMem, rfl⟩)))
    · exact Or.inl (Or.inr ⟨fields, hMem, rfl⟩)

theorem width_of_mem_framed {widths : List Nat} {names : Option Line} {body : List Line}
    (h : ∀ fields ∈ names.toList ++ body, HaveRoom widths fields) {line : String}
    (hLine : line ∈ framed widths names body) : Text.width line = lineWidth widths := by
  rcases mem_framed_iff.mp hLine with hBorder | ⟨fields, hFields, rfl⟩
  · obtain ⟨left, right, hLeft, hRight, rfl⟩ := exists_corners_of_mem_borders hBorder
    exact width_border hLeft hRight widths
  · exact width_barred (h fields hFields)

end Tabular.Table
