import Mathlib
import Tabular.Proofs.Layout.Runs
import Tabular.Proofs.Layout.Subfields
import Tabular.Proofs.Text.Fit

/-!
The lines of values that a layout may never have seen, or was not settled for. Texts, dates and
currencies are cut to their fields. A number never is: its line gets wider instead, by what the
number is longer than its field.
-/

namespace Tabular

namespace NumberLayout

/-- What the text of a number, brought to the places of the layout, is longer than the field. -/
def excess (layout : NumberLayout) (d : Decimal) : Nat :=
  (d.charsTo layout.places).length - layout.width

/-- The number stands at the end of the field with its sign and all its digits, to which only zeros
are added. The field is wider than its layout by the number's excess. -/
structure Writes (layout : NumberLayout) (d : Decimal) (field : List Char) : Prop where
  columns : Text.columns field = layout.width + layout.excess d
  digits : ∃ blanks, field = List.replicate blanks ' ' ++ d.text.toList ++
    (if 0 < layout.places ∧ d.scale = 0 then ['.'] else []) ++
      List.replicate (layout.places - d.scale) '0'
  denoted : d.DenotedBy (Text.trim field)

theorem writes_chars (layout : NumberLayout) (d : Decimal) :
    layout.Writes d (layout.chars (some d)) where
  columns := by
    rw [columns_chars, length_chars_some, excess]
    omega
  digits := ⟨_, layout.chars_eq_text d⟩
  denoted := by
    rw [chars, Text.trim_leftpad fun _ => Decimal.isBlank_of_mem_charsTo]
    exact d.denotedBy_charsTo layout.places

end NumberLayout

/-- Numbers, each with the layout of the field in which it stands. -/
abbrev PlacedNumbers := List (NumberLayout × Decimal)

/-- What numbers are longer than their fields, all together. -/
def PlacedNumbers.excess (numbers : PlacedNumbers) : Nat :=
  (numbers.map fun placed => placed.1.excess placed.2).sum

/-- The number stands in its field, and behind it the label in `room` columns. -/
inductive Amount.WrittenAs (numbers : NumberLayout) (room : Nat) : Amount → List Char → Prop where
  | labelled {amount : Amount} {field label : List Char}
      (hNumber : numbers.Writes amount.number field)
      (hLabel : Text.Fitted room amount.currency label) :
      WrittenAs numbers room amount (field ++ ' ' :: label)

theorem Amount.writtenAs_format (numbers : NumberLayout) (room : Nat) (amount : Amount) :
    amount.WrittenAs numbers room
      (numbers.chars (some amount.number) ++ ' ' :: (Text.fit amount.currency room).toList) :=
  .labelled (numbers.writes_chars amount.number) (Text.fitted_fit amount.currency room)

theorem Amount.WrittenAs.columns_eq {numbers : NumberLayout} {room : Nat} {amount : Amount}
    {shown : List Char} (h : amount.WrittenAs numbers room shown) :
    Text.columns shown = numbers.width + 1 + room + numbers.excess amount.number := by
  cases h with
  | labelled hNumber hLabel =>
      rw [Text.columns_append_cons Text.separates_space, hNumber.columns, hLabel.columns]
      omega

namespace PositionLayout

/-- The line of a position and the numbers that stand in it: the units, and the cost if the position
has one and the layout has room for costs. -/
inductive Writes (layout : PositionLayout) : Position → List Char → PlacedNumbers → Prop where
  | withoutRoom {units : Amount} {cost : Option Amount} {shown : List Char}
      (hHas : layout.hasCost = false)
      (hUnits : units.WrittenAs layout.units layout.unitsCurrency shown) :
      Writes layout ⟨units, cost⟩ shown [(layout.units, units.number)]
  | withoutCost {units : Amount} {shown : List Char} (hHas : layout.hasCost = true)
      (hUnits : units.WrittenAs layout.units layout.unitsCurrency shown) :
      Writes layout ⟨units, none⟩ (shown ++ ' ' :: List.replicate layout.costWidth ' ')
        [(layout.units, units.number)]
  | withCost {units paid : Amount} {shown costShown : List Char} (hHas : layout.hasCost = true)
      (hUnits : units.WrittenAs layout.units layout.unitsCurrency shown)
      (hPaid : paid.WrittenAs layout.cost layout.costCurrency costShown) :
      Writes layout ⟨units, some paid⟩ (shown ++ ' ' :: '\x7b' :: (costShown ++ ['\x7d']))
        [(layout.units, units.number), (layout.cost, paid.number)]

/-- Every position can be written, whatever the layout has seen. -/
theorem exists_writes (layout : PositionLayout) (held : Position) :
    ∃ numbers, layout.Writes held (layout.format held).toList numbers := by
  obtain ⟨units, cost⟩ := held
  have hUnits := units.writtenAs_format layout.units layout.unitsCurrency
  rw [← toList_formatUnits] at hUnits
  cases hHas : layout.hasCost with
  | false =>
      have hLine : layout.format ⟨units, cost⟩ = layout.formatUnits units := by
        simp [format, hHas]
      rw [hLine]
      exact ⟨_, .withoutRoom hHas hUnits⟩
  | true =>
      cases cost with
      | none =>
          have hLine : (layout.format ⟨units, none⟩).toList =
              (layout.formatUnits units).toList ++ ' ' :: List.replicate layout.costWidth ' ' := by
            simp [format, hHas, formatCost]
          rw [hLine]
          exact ⟨_, .withoutCost hHas hUnits⟩
      | some paid =>
          have hPaid := paid.writtenAs_format layout.cost layout.costCurrency
          have hLine : (layout.format ⟨units, some paid⟩).toList =
              (layout.formatUnits units).toList ++ ' ' :: '\x7b' ::
                (layout.cost.chars (some paid.number) ++
                  ' ' :: (Text.fit paid.currency layout.costCurrency).toList ++ ['\x7d']) := by
            simp [format, hHas, toList_formatCost_some]
          rw [hLine]
          exact ⟨_, .withCost hHas hUnits hPaid⟩

/-- A line is as wide as the layout and wider by the excess of the numbers in it. -/
theorem Writes.columns_eq {layout : PositionLayout} {held : Position} {shown : List Char}
    {numbers : PlacedNumbers} (h : layout.Writes held shown numbers) :
    Text.columns shown = layout.width + numbers.excess := by
  cases h with
  | withoutRoom hHas hUnits =>
      rw [hUnits.columns_eq, width, if_neg (by simp [hHas]), unitsWidth]
      simp [PlacedNumbers.excess]
  | withoutCost hHas hUnits =>
      rw [Text.columns_append_cons Text.separates_space, hUnits.columns_eq,
        Text.columns_replicate Text.separates_space, width, if_pos hHas, unitsWidth]
      simp [PlacedNumbers.excess]
      omega
  | withCost hHas hUnits hPaid =>
      have hClose : Text.separates '\x7d' = true := by decide
      rw [Text.columns_append_cons Text.separates_space, hUnits.columns_eq,
        Text.columns_cons separates_opening, Text.columns_append_cons hClose, hPaid.columns_eq,
        Text.columns_nil, width, if_pos hHas, unitsWidth, costWidth]
      simp [PlacedNumbers.excess]
      omega

end PositionLayout

/-- A line, and the numbers that stand in it. -/
structure WrittenLine where
  text : String
  numbers : PlacedNumbers

namespace ColumnLayout

/-- The lines of a cell and the numbers in them. Texts and dates are cut to their field. An inventory
takes a line for each of its positions, and a cell without content is a blank line. -/
inductive Writes : ColumnLayout → Cell → List WrittenLine → Prop where
  | blank {layout : ColumnLayout} {cell : Cell}
      (h : cell = none ∨ cell = some (.inventory ⟨[]⟩)) :
      Writes layout cell [⟨Text.spaces layout.width, []⟩]
  | string {widest : Nat} {text line : String} (h : Text.Fitted widest text line.toList) :
      Writes (.string widest) (some (.string text)) [⟨line, []⟩]
  | date {day : Date} {line : String} (h : Text.Fitted dateWidth day.text line.toList) :
      Writes .date (some (.date day)) [⟨line, []⟩]
  | decimal {layout : NumberLayout} {number : Decimal} {line : String}
      (h : layout.Writes number line.toList) :
      Writes (.decimal layout) (some (.decimal number)) [⟨line, [(layout, number)]⟩]
  | position {layout : PositionLayout} {held : Position} {line : String} {numbers : PlacedNumbers}
      (h : layout.Writes held line.toList numbers) :
      Writes (.position layout) (some (.position held)) [⟨line, numbers⟩]
  | inventory {layout : PositionLayout} {held : Inventory} {lines : List WrittenLine}
      (hSome : held.positions ≠ [])
      (h : List.Forall₂ (fun position line =>
        layout.Writes position (WrittenLine.text line).toList line.numbers) held.positions lines) :
      Writes (.inventory layout) (some (.inventory held)) lines

theorem exists_writes_soleLine {layout : ColumnLayout} {cell : Cell}
    (hType : cell.HasType layout.type) (hNone : cell.positions = []) :
    ∃ numbers, layout.Writes cell [⟨layout.soleLine cell, numbers⟩] := by
  rcases cell with _ | value
  · have hBlank : layout.soleLine none = Text.spaces layout.width := by
      cases layout <;> rfl
    rw [hBlank]
    exact ⟨_, .blank (Or.inl rfl)⟩
  · have hValue : value.type = layout.type := hType value rfl
    cases layout with
    | string widest =>
        cases value with
        | string text => exact ⟨_, .string (Text.fitted_fit text widest)⟩
        | _ => cases hValue
    | date =>
        cases value with
        | date day => exact ⟨_, .date (Text.fitted_fit day.text dateWidth)⟩
        | _ => cases hValue
    | decimal numbers =>
        cases value with
        | decimal number =>
            have hWrites := numbers.writes_chars number
            rw [← NumberLayout.toList_format] at hWrites
            exact ⟨_, .decimal hWrites⟩
        | _ => cases hValue
    | position positions =>
        cases value with
        | position held =>
            obtain ⟨numbers, hWrites⟩ := positions.exists_writes held
            exact ⟨numbers, .position hWrites⟩
        | _ => cases hValue
    | inventory positions =>
        cases value with
        | inventory held =>
            obtain ⟨all⟩ := held
            obtain rfl : all = [] := hNone
            exact ⟨_, .blank (Or.inr rfl)⟩
        | _ => cases hValue

theorem exists_writes_positionLines {layout : ColumnLayout} {cell : Cell}
    (hType : cell.HasType layout.type) (hSome : cell.positions ≠ []) :
    ∃ lines, lines.map WrittenLine.text = cell.positions.map layout.positionLine ∧
      layout.Writes cell lines := by
  rcases cell with _ | value
  · exact absurd rfl hSome
  · have hValue : value.type = layout.type := hType value rfl
    cases value with
    | inventory held =>
        cases layout with
        | inventory positions =>
            choose numbers hWrites using positions.exists_writes
            refine ⟨held.positions.map fun position => ⟨positions.format position, numbers position⟩,
              ?_, .inventory hSome ?_⟩
            · rw [List.map_map]
              rfl
            · rw [List.forall₂_map_right_iff, List.forall₂_same]
              intro position _
              exact hWrites position
        | _ => cases hValue
    | _ => exact absurd rfl hSome

/-- Every cell of the column's type can be rendered, whatever the layout has seen. -/
theorem exists_writes {layout : ColumnLayout} {cell : Cell} (hType : cell.HasType layout.type) :
    ∃ block lines, layout.format cell = .ok block ∧
      block.lines = lines.map WrittenLine.text ∧ layout.Writes cell lines := by
  by_cases hNone : cell.positions = []
  · obtain ⟨numbers, hWrites⟩ := exists_writes_soleLine hType hNone
    exact ⟨_, _, format_of_positions_eq_nil hType hNone, rfl, hWrites⟩
  · obtain ⟨block, hFormat, hLines⟩ := format_of_positions_ne_nil hType hNone
    obtain ⟨lines, hTexts, hWrites⟩ := exists_writes_positionLines hType hNone
    exact ⟨block, lines, hFormat, hLines.trans hTexts.symm, hWrites⟩

/-- A line is as wide as its column, and wider by what the numbers in it are longer than their
fields. -/
theorem Writes.width_eq {layout : ColumnLayout} {cell : Cell} {lines : List WrittenLine}
    (h : layout.Writes cell lines) {line : WrittenLine} (hLine : line ∈ lines) :
    Text.width line.text = layout.width + line.numbers.excess := by
  cases h with
  | blank hNone =>
      rw [List.mem_singleton.mp hLine]
      exact Text.width_spaces _
  | string hText =>
      rw [List.mem_singleton.mp hLine]
      exact hText.columns
  | date hDay =>
      rw [List.mem_singleton.mp hLine]
      exact hDay.columns
  | decimal hNumber =>
      rw [List.mem_singleton.mp hLine, Text.width, hNumber.columns]
      simp [PlacedNumbers.excess, width]
  | position hHeld =>
      rw [List.mem_singleton.mp hLine]
      exact hHeld.columns_eq
  | inventory hSome hAll =>
      obtain ⟨index, hIndex, rfl⟩ := List.mem_iff_getElem.mp hLine
      have hPosition : index < _ := hAll.length_eq ▸ hIndex
      exact ((List.forall₂_iff_get.mp hAll).2 index hPosition hIndex).columns_eq

/-- The column has room for costs. -/
def hasCost : ColumnLayout → Bool
  | position layout => layout.hasCost
  | inventory layout => layout.hasCost
  | _ => false

theorem hasCost_settle (layout : ColumnLayout) : layout.settle.hasCost = layout.hasCost := by
  cases layout <;> rfl

theorem hasCost_of_type {layout : ColumnLayout} (h : layout.type ≠ .position)
    (hOther : layout.type ≠ .inventory) : layout.hasCost = false := by
  cases layout with
  | position positions => exact absurd rfl h
  | inventory positions => exact absurd rfl hOther
  | _ => rfl

/-- A column has room for costs if one of its cells holds a position with a cost. -/
theorem hasCost_learned {type : ValueType} {cells : List Cell}
    (h : ∀ cell ∈ cells, cell.HasType type) :
    (learned type cells).hasCost = (cells.flatMap Cell.held).any (·.cost.isSome) := by
  by_cases hType : type = .position ∨ type = .inventory
  · rw [learned_eq_ofPositions hType h]
    rcases hType with rfl | rfl <;> rfl
  · have hHeld : ∀ cell ∈ cells, cell.held = [] := by
      intro cell hCell
      rcases cell with _ | value
      · rfl
      · have hValue : value.type = type := h _ hCell value rfl
        cases value with
        | position held => exact absurd (Or.inl hValue.symm) hType
        | inventory held => exact absurd (Or.inr hValue.symm) hType
        | _ => rfl
    rw [List.flatMap_eq_nil_iff.mpr hHeld, hasCost_of_type]
    · rfl
    · rw [type_learned]
      exact fun hPosition => hType (Or.inl hPosition)
    · rw [type_learned]
      exact fun hInventory => hType (Or.inr hInventory)

/-- Room for costs is made as soon as a position with a cost has been observed. It does not wait until
the layout is settled. -/
theorem hasCost_run_iff (type : ValueType) (steps : List Step) :
    ((empty type).run steps).hasCost = true ↔
      ∃ value ∈ steps.filterMap (Step.taught type), ∃ held ∈ Cell.held (some value),
        ∃ paid, held.cost = some paid := by
  have hTypes : ∀ cell ∈ (steps.filterMap (Step.taught type)).map some, Cell.HasType type cell := by
    intro cell hCell
    obtain ⟨value, hValue, rfl⟩ := List.mem_map.mp hCell
    obtain ⟨next, -, hTaught⟩ := List.mem_filterMap.mp hValue
    rintro _ ⟨⟩
    exact type_of_taught hTaught
  have hLearned : ((empty type).run steps).hasCost =
      (learned type ((steps.filterMap (Step.taught type)).map some)).hasCost := by
    rw [← hasCost_settle, settle_run, type_empty]
    rfl
  rw [hLearned, hasCost_learned hTypes]
  simp only [List.flatMap_map, List.any_eq_true, List.mem_flatMap, Option.isSome_iff_exists]
  constructor
  · rintro ⟨held, ⟨value, hValue, hHeld⟩, hPaid⟩
    exact ⟨value, hValue, held, hHeld, hPaid⟩
  · rintro ⟨value, hValue, held, hHeld, hPaid⟩
    exact ⟨held, ⟨value, hValue, hHeld⟩, hPaid⟩

end ColumnLayout

end Tabular
