import Tabular.Proofs.Layout.Width

/-!
What stands in a cell's field in each of the lines that its row takes. An inventory shows a position
in each line as long as it has any; every other cell shows all it has in the first line; the rest is
blank.
-/

namespace Tabular.ColumnLayout

/-- The line of a cell that has no positions of an inventory to show. -/
def soleLine (layout : ColumnLayout) (cell : Cell) : String :=
  match layout, cell with
  | string widest, some (.string text) => Text.fit text widest
  | date, some (.date day) => Text.fit day.text dateWidth
  | decimal numbers, some (.decimal number) => numbers.format (some number)
  | position positions, some (.position held) => positions.format held
  | layout, _ => Text.spaces layout.width

/-- The line of one position of an inventory. In other columns there are none. -/
def positionLine (layout : ColumnLayout) (held : Position) : String :=
  match layout with
  | inventory positions => positions.format held
  | layout => Text.spaces layout.width

/-- The field of a cell in the line with this index of its row. -/
def fieldAt (layout : ColumnLayout) (cell : Cell) (index : Nat) : String :=
  match cell.positions[index]? with
  | some held => layout.positionLine held
  | none => if index = 0 then layout.soleLine cell else Text.spaces layout.width

theorem fieldAt_of_positions_eq_nil {layout : ColumnLayout} {cell : Cell}
    (h : cell.positions = []) (index : Nat) :
    layout.fieldAt cell index =
      if index = 0 then layout.soleLine cell else Text.spaces layout.width := by
  simp [fieldAt, h]

/-- A cell without positions of an inventory is rendered to its sole line. -/
theorem format_of_positions_eq_nil {layout : ColumnLayout} {cell : Cell}
    (hType : cell.HasType layout.type) (h : cell.positions = []) :
    layout.format cell = .ok (.single (layout.soleLine cell)) := by
  rcases cell with _ | value
  · cases layout <;> rfl
  · have hValue : value.type = layout.type := hType value rfl
    cases layout with
    | inventory positions =>
        cases value with
        | inventory held =>
            have hNone : held.positions = [] := h
            simp [format, soleLine, hNone, Block.ofLines, width]
        | _ => cases hValue
    | _ => cases value <;> first | rfl | cases hValue

/-- An inventory with positions is rendered to a line for each of them, in their order. -/
theorem format_of_positions_ne_nil {layout : ColumnLayout} {cell : Cell}
    (hType : cell.HasType layout.type) (h : cell.positions ≠ []) :
    ∃ block, layout.format cell = .ok block ∧
      block.lines = cell.positions.map layout.positionLine := by
  rcases cell with _ | value
  · exact absurd rfl h
  · have hValue : value.type = layout.type := hType value rfl
    cases value with
    | inventory held =>
        cases layout with
        | inventory positions =>
            have hSome : held.positions ≠ [] := h
            refine ⟨_, rfl, Block.lines_ofLines ?_ _⟩
            simpa using hSome
        | _ => cases hValue
    | _ => exact absurd rfl h

/-- Every cell of the column's type can be rendered. Its block has a line for each of its positions,
but at least one, and the lines are those of its field. -/
theorem format_of_hasType {layout : ColumnLayout} {cell : Cell}
    (hType : cell.HasType layout.type) :
    ∃ block, layout.format cell = .ok block ∧ block.height = max 1 cell.positions.length ∧
      ∀ index, (block.line? index).getD (Text.spaces layout.width) =
        layout.fieldAt cell index := by
  by_cases hNone : cell.positions = []
  · refine ⟨_, format_of_positions_eq_nil hType hNone, ?_, ?_⟩
    · simp [Block.height, hNone]
    · intro index
      rw [fieldAt_of_positions_eq_nil hNone]
      cases index with
      | zero => rfl
      | succ index => rfl
  · obtain ⟨block, hFormat, hLines⟩ := format_of_positions_ne_nil hType hNone
    refine ⟨block, hFormat, ?_, ?_⟩
    · have hPos := List.length_pos_iff.mpr hNone
      rw [Block.height, hLines, List.length_map]
      omega
    · intro index
      rw [Block.line?, hLines, List.getElem?_map, fieldAt]
      cases hAt : cell.positions[index]? with
      | some held => rfl
      | none =>
          have hLength := List.getElem?_eq_none_iff.mp hAt
          have hPos := List.length_pos_iff.mpr hNone
          simp [show index ≠ 0 by omega]

/-- Reading lines beyond the last as blanks fills them up with blanks. -/
theorem map_getD_range {lines : List String} {count : Nat} (h : lines.length ≤ count)
    (blank : String) :
    ((List.range count).map fun index => lines[index]?.getD blank) =
      lines.rightpad count blank := by
  apply List.ext_getElem
  · rw [List.length_map, List.length_range, List.length_rightpad, Nat.max_eq_left h]
  · intro index hLeft hRight
    simp only [List.getElem_map, List.getElem_range, List.rightpad, List.getElem_append]
    split
    · next hIndex => rw [List.getElem?_eq_getElem hIndex, Option.getD_some]
    · next hIndex =>
      rw [List.getElem?_eq_none (Nat.le_of_not_lt hIndex), List.getElem_replicate, Option.getD_none]

/-- From the top, the fields of a cell are the lines that it is rendered to, and then blanks. -/
theorem map_fieldAt_range {layout : ColumnLayout} {cell : Cell} (hType : cell.HasType layout.type)
    {count : Nat} (h : max 1 cell.positions.length ≤ count) :
    ∃ block, layout.format cell = .ok block ∧
      (List.range count).map (layout.fieldAt cell) =
        block.lines.rightpad count (Text.spaces layout.width) := by
  obtain ⟨block, hFormat, hHeight, hField⟩ := format_of_hasType hType
  refine ⟨block, hFormat, ?_⟩
  rw [← map_getD_range (Nat.le_trans (Nat.le_of_eq hHeight) h)]
  exact List.map_congr_left fun index _ => (hField index).symm

theorem width_soleLine {layout : ColumnLayout} {cell : Cell} (hSettled : layout.IsSettled)
    (hSeen : layout.Seen cell) : Text.width (layout.soleLine cell) = layout.width := by
  rcases cell with _ | value
  · cases layout <;> exact Text.width_spaces _
  · cases layout with
    | string widest =>
        cases value with
        | string text => exact Text.width_fit text widest
        | _ => exact Text.width_spaces _
    | date =>
        cases value with
        | date day => exact Text.width_fit day.text dateWidth
        | _ => exact Text.width_spaces _
    | decimal numbers =>
        cases value with
        | decimal number =>
            exact NumberLayout.width_format_of_seen (isSettled_decimal_iff.mp hSettled)
              (seen_decimal_iff.mp hSeen)
        | _ => exact Text.width_spaces _
    | position positions =>
        cases value with
        | position held =>
            exact PositionLayout.width_format_of_seen (isSettled_position_iff.mp hSettled)
              (seen_position_iff.mp hSeen)
        | _ => exact Text.width_spaces _
    | inventory positions => exact Text.width_spaces _

theorem width_positionLine {layout : ColumnLayout} {cell : Cell} (hSettled : layout.IsSettled)
    (hSeen : layout.Seen cell) {held : Position} (h : held ∈ cell.positions) :
    Text.width (layout.positionLine held) = layout.width := by
  cases layout with
  | inventory positions =>
      exact PositionLayout.width_format_of_seen (isSettled_inventory_iff.mp hSettled)
        (seen_inventory_iff.mp hSeen held h)
  | _ => exact Text.width_spaces _

/-- A settled layout gives every cell it has seen a field of exactly its width, in every line. -/
theorem width_fieldAt {layout : ColumnLayout} {cell : Cell} (hSettled : layout.IsSettled)
    (hSeen : layout.Seen cell) (index : Nat) :
    Text.width (layout.fieldAt cell index) = layout.width := by
  rw [fieldAt]
  split
  · next held hAt => exact width_positionLine hSettled hSeen (List.mem_of_getElem? hAt)
  · split
    · exact width_soleLine hSettled hSeen
    · exact Text.width_spaces _

end Tabular.ColumnLayout
