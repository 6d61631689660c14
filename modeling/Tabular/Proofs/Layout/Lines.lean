import Tabular.Proofs.Layout.Shown

/-!
The lines that the cells of a column are rendered to once all of them have been observed and the
layout is settled. They are exactly as wide as the column, and no text of a cell is cut.
-/

namespace Tabular

/-- A text that fits stands whole in its field, and behind it are only spaces. -/
theorem Text.toList_fit_of_le {text : String} {limit : Nat} (h : width text ≤ limit) :
    (fit text limit).toList = text.toList ++ List.replicate (limit - width text) ' ' := by
  rw [toList_fit, cut_of_le h]
  rfl

/-- The number stands in its field with all its digits, and behind it the whole label, followed only
by padding. -/
inductive Amount.StandsIn (numbers : NumberLayout) : Amount → List Char → Prop where
  | padded {amount : Amount} {field : List Char} {padding : Nat}
      (hNumber : numbers.Shows field (amount.number.charsTo numbers.places)) :
      StandsIn numbers amount
        (field ++ ' ' :: (amount.currency.toList ++ List.replicate padding ' '))

/-- The line shows the units of the position whole, and so its cost in braces if it has one. -/
inductive Position.StandsIn (layout : PositionLayout) : Position → List Char → Prop where
  | withoutCost {units : Amount} {field : List Char} {padding : Nat}
      (hUnits : units.StandsIn layout.units field) :
      StandsIn layout ⟨units, none⟩ (field ++ List.replicate padding ' ')
  | withCost {units paid : Amount} {field costField : List Char}
      (hUnits : units.StandsIn layout.units field) (hPaid : paid.StandsIn layout.cost costField) :
      StandsIn layout ⟨units, some paid⟩ (field ++ ' ' :: '\x7b' :: (costField ++ ['\x7d']))

/-- A number that a settled layout has seen, and a label that there is room for. -/
theorem Amount.standsIn_of_seen {numbers : NumberLayout} {amount : Amount} {room : Nat}
    (hSettled : numbers.IsSettled) (hSeen : numbers.Seen amount.number)
    (hRoom : Text.width amount.currency ≤ room) :
    amount.StandsIn numbers
      (numbers.chars (some amount.number) ++ ' ' :: (Text.fit amount.currency room).toList) := by
  rw [Text.toList_fit_of_le hRoom]
  apply StandsIn.padded
  constructor
  · exact NumberLayout.length_chars_of_seen hSettled hSeen
  · exact Text.trim_leftpad (fun _ => Decimal.isBlank_of_mem_charsTo) numbers.width

/-- A settled layout shows a position that it has seen with both its labels whole. -/
theorem PositionLayout.standsIn_format {layout : PositionLayout} {held : Position}
    (hSettled : layout.IsSettled) (hSeen : layout.Seen held) :
    held.StandsIn layout (layout.format held).toList := by
  obtain ⟨units, cost⟩ := held
  obtain ⟨hUnitsSeen, hUnitsRoom, hCostSeen⟩ := (seen_iff layout ⟨units, cost⟩).mp hSeen
  have hUnits := Amount.standsIn_of_seen hSettled.units hUnitsSeen hUnitsRoom
  cases cost with
  | none =>
      rw [toList_format_withoutCost]
      simpa using Position.StandsIn.withoutCost hUnits
  | some paid =>
      obtain ⟨hHas, hPaidSeen, hPaidRoom⟩ := hCostSeen paid rfl
      have hPaid := Amount.standsIn_of_seen hSettled.cost hPaidSeen hPaidRoom
      rw [toList_format_withCost hHas]
      simpa using Position.StandsIn.withCost hUnits hPaid

namespace ColumnLayout

/-- The lines in which a cell is shown: at least one, and all exactly as wide as the column. A cell
without content is one blank line; a text and a position take one line, in which they stand whole;
and an inventory takes a line for each of its positions, in their order. -/
structure ShowsWhole (layout : ColumnLayout) (cell : Cell) (lines : List String) : Prop where
  length : lines.length = max 1 cell.positions.length
  width : ∀ line ∈ lines, Text.width line = layout.width
  blank : cell = none ∨ cell = some (.inventory ⟨[]⟩) → lines = [Text.spaces layout.width]
  string : ∀ text, cell = some (.string text) → ∃ padding, lines = [text ++ Text.spaces padding]
  position : ∀ held, cell = some (.position held) → ∃ numbers line,
    layout = .position numbers ∧ lines = [line] ∧ held.StandsIn numbers line.toList
  inventory : ∀ held, cell = some (.inventory held) → held.positions ≠ [] → ∃ numbers,
    layout = .inventory numbers ∧
      List.Forall₂ (fun position line => position.StandsIn numbers line.toList) held.positions lines

/-- Cells of the type of the column are all observed. -/
theorem foldlM_observe_of_hasType {layout : ColumnLayout} {cells : List Cell}
    (h : ∀ cell ∈ cells, cell.HasType layout.type) :
    cells.foldlM observe layout = .ok (cells.foldl see layout) := by
  induction cells generalizing layout with
  | nil => rfl
  | cons cell cells ih =>
      obtain ⟨hHead, hTail⟩ := List.forall_mem_cons.mp h
      rw [List.foldlM_cons, observe_of_hasType hHead]
      apply ih
      simpa using hTail

theorem Holds.soleLine_string {layout : ColumnLayout} {text : String}
    (h : layout.Holds (some (.string text))) :
    ∃ padding, layout.soleLine (some (.string text)) = text ++ Text.spaces padding := by
  cases layout with
  | string widest =>
      have hRoom := seen_string_iff.mp h.seen
      refine ⟨widest - Text.width text, String.toList_injective ?_⟩
      simp [soleLine, Text.toList_fit_of_le hRoom]
  | _ => cases h.hasType _ rfl

theorem Holds.soleLine_position {layout : ColumnLayout} {held : Position}
    (h : layout.Holds (some (.position held))) :
    ∃ numbers, layout = .position numbers ∧
      held.StandsIn numbers (layout.soleLine (some (.position held))).toList := by
  cases layout with
  | position numbers =>
      exact ⟨numbers, rfl, PositionLayout.standsIn_format (isSettled_position_iff.mp h.isSettled)
        (seen_position_iff.mp h.seen)⟩
  | _ => cases h.hasType _ rfl

theorem Holds.positionLines {layout : ColumnLayout} {held : Inventory}
    (h : layout.Holds (some (.inventory held))) :
    ∃ numbers, layout = .inventory numbers ∧
      List.Forall₂ (fun position line => position.StandsIn numbers line.toList) held.positions
        (held.positions.map layout.positionLine) := by
  cases layout with
  | inventory numbers =>
      refine ⟨numbers, rfl, List.forall₂_map_right_iff.mpr (List.forall₂_same.mpr ?_)⟩
      intro position hPosition
      exact PositionLayout.standsIn_format (isSettled_inventory_iff.mp h.isSettled)
        (seen_inventory_iff.mp h.seen position hPosition)
  | _ => cases h.hasType _ rfl

/-- A cell without positions of an inventory is shown by its sole line. -/
theorem Holds.showsWhole_soleLine {layout : ColumnLayout} {cell : Cell} (h : layout.Holds cell)
    (hNone : cell.positions = []) : layout.ShowsWhole cell [layout.soleLine cell] where
  length := by simp [hNone]
  width := by
    intro line hLine
    rw [List.mem_singleton.mp hLine]
    exact width_soleLine h.isSettled h.seen
  blank := by
    rintro (rfl | rfl) <;> cases layout <;> rfl
  string := by
    rintro text rfl
    obtain ⟨padding, hLine⟩ := h.soleLine_string
    exact ⟨padding, by rw [hLine]⟩
  position := by
    rintro held rfl
    obtain ⟨numbers, hLayout, hLine⟩ := h.soleLine_position
    exact ⟨numbers, _, hLayout, rfl, hLine⟩
  inventory := by
    rintro held rfl hSome
    exact absurd hNone hSome

/-- An inventory with positions is shown by the lines of its positions. -/
theorem Holds.showsWhole_positionLines {layout : ColumnLayout} {cell : Cell} (h : layout.Holds cell)
    (hSome : cell.positions ≠ []) :
    layout.ShowsWhole cell (cell.positions.map layout.positionLine) where
  length := by
    have hPositive := List.length_pos_iff.mpr hSome
    rw [List.length_map]
    omega
  width := by
    intro line hLine
    obtain ⟨held, hHeld, rfl⟩ := List.mem_map.mp hLine
    exact width_positionLine h.isSettled h.seen hHeld
  blank := by
    rintro (rfl | rfl) <;> exact absurd rfl hSome
  string := by
    rintro text rfl
    exact absurd rfl hSome
  position := by
    rintro held rfl
    exact absurd rfl hSome
  inventory := by
    rintro held rfl -
    exact h.positionLines

theorem Holds.exists_showsWhole {layout : ColumnLayout} {cell : Cell} (h : layout.Holds cell) :
    ∃ block, layout.format cell = .ok block ∧ layout.ShowsWhole cell block.lines := by
  by_cases hNone : cell.positions = []
  · exact ⟨_, format_of_positions_eq_nil h.hasType hNone, h.showsWhole_soleLine hNone⟩
  · obtain ⟨block, hFormat, hLines⟩ := format_of_positions_ne_nil h.hasType hNone
    exact ⟨block, hFormat, hLines ▸ h.showsWhole_positionLines hNone⟩

/-- Cells of one type are all observed by a layout of the type; and once it is settled, it renders
each of them to lines of its own width that show the cell whole. -/
theorem observed_cells_are_shown_whole (type : ValueType) (cells : List Cell)
    (hTypes : ∀ cell ∈ cells, cell.HasType type) :
    ∃ observed, cells.foldlM observe (empty type) = .ok observed ∧
      ∀ cell ∈ cells, ∃ block, observed.settle.format cell = .ok block ∧
        block.lines ≠ [] ∧ observed.settle.ShowsWhole cell block.lines := by
  refine ⟨_, foldlM_observe_of_hasType fun cell hCell => ?_, fun cell hCell => ?_⟩
  · rw [type_empty]
    exact hTypes cell hCell
  · have hHolds : (learned type cells).Holds cell :=
      { hasType := by rw [type_learned]; exact hTypes cell hCell
        seen := seen_learned hCell type
        isSettled := isSettled_learned type cells }
    obtain ⟨block, hFormat, hShows⟩ := hHolds.exists_showsWhole
    exact ⟨block, hFormat, block.lines_ne_nil, hShows⟩

/-- An inventory of two positions, of which one has a cost, above an empty cell. -/
theorem two_positions_are_shown_whole :
    let held : Inventory :=
      ⟨[⟨⟨⟨false, 15, 1, by decide, by decide⟩, "EUR"⟩, none⟩,
        ⟨⟨⟨true, 200, 0, by decide, by decide⟩, "HOOL"⟩,
          some ⟨⟨false, 35, 1, by decide, by decide⟩, "USD"⟩⟩]⟩
    let cells : List Cell := [some (.inventory held), none]
    (∀ cell ∈ cells, cell.HasType .inventory) ∧
      ∃ observed block, cells.foldlM observe (empty .inventory) = .ok observed ∧
        observed.settle.format (some (.inventory held)) = .ok block ∧ block.lines.length = 2 ∧
          observed.settle.ShowsWhole (some (.inventory held)) block.lines := by
  intro held cells
  have hTypes : ∀ cell ∈ cells, cell.HasType .inventory := by
    simp [cells, Cell.HasType, Value.type]
  obtain ⟨observed, hObserved, hShown⟩ := observed_cells_are_shown_whole .inventory cells hTypes
  obtain ⟨block, hFormat, -, hWhole⟩ := hShown _ List.mem_cons_self
  exact ⟨hTypes, observed, block, hObserved, hFormat, hWhole.length, hWhole⟩

end ColumnLayout

end Tabular
