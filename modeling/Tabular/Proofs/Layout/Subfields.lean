import Mathlib
import Tabular.Proofs.Layout.Alignment
import Tabular.Proofs.Layout.Lines

/-!
The lines of positions in one column. The two numbers of a position and its two currencies have
fields of their own, whose widths follow from all positions of the column, so that the points, the
currencies and the braces of all lines stand below each other.
-/

namespace Tabular

namespace Text

/-- The text and spaces behind it up to a width. -/
def padded (width : Nat) (text : String) : List Char :=
  text.toList ++ List.replicate (width - Text.width text) ' '

theorem columns_padded {width : Nat} {text : String} (h : Text.width text ≤ width) :
    columns (padded width text) = width := by
  rw [padded, columns_append_replicate separates_space]
  exact Nat.add_sub_cancel' h

/-- Some part of a text stands in it behind this number of columns. -/
def StandsAt (cs : List Char) (column : Nat) (part : List Char) : Prop :=
  ∃ front back, cs = front ++ part ++ back ∧ columns front = column

theorem StandsAt.append {cs part : List Char} {column : Nat} (h : StandsAt cs column part)
    (more : List Char) : StandsAt (cs ++ more) column part := by
  obtain ⟨front, back, rfl, hColumn⟩ := h
  exact ⟨front, back ++ more, by simp, hColumn⟩

/-- What follows a separating character stands as far behind it as it stands by itself. -/
theorem StandsAt.behind {cs part : List Char} {column : Nat} (h : StandsAt cs column part)
    {c : Char} (hSeparates : separates c = true) (front : List Char) :
    StandsAt (front ++ c :: cs) (columns front + 1 + column) part := by
  obtain ⟨before, back, rfl, rfl⟩ := h
  exact ⟨front ++ c :: before, back, by simp, columns_append_cons hSeparates front before⟩

theorem standsAt_start (part back : List Char) : StandsAt (part ++ back) 0 part :=
  ⟨[], back, rfl, rfl⟩

/-- In a plain text the columns are the characters. -/
theorem standsAt_of_getElem? {cs : List Char} {index : Nat} {c : Char}
    (hPlain : ∀ c ∈ cs, isPlain c = true) (hAt : cs[index]? = some c) :
    StandsAt cs index [c] := by
  obtain ⟨hIndex, rfl⟩ := List.getElem?_eq_some_iff.mp hAt
  refine ⟨cs.take index, cs.drop (index + 1), ?_, ?_⟩
  · simp
  · rw [columns_of_isPlain fun c hMem => hPlain c (List.mem_of_mem_take hMem), List.length_take]
    omega

end Text

namespace PositionLayout

/-- The most columns that one of the labels takes. -/
def widest (labels : List String) : Nat :=
  (labels.map Text.width).foldl max 0

/-- The layout of these positions, all observed and then settled. -/
def learned (positions : List Position) : PositionLayout :=
  (empty.observeAll positions).settle

theorem observeAll_eq (layout : PositionLayout) (positions : List Position) :
    layout.observeAll positions =
      { units := (positions.map fun held => some held.units.number).foldl
          NumberLayout.observe layout.units
        unitsCurrency := (positions.map fun held => Text.width held.units.currency).foldl
          max layout.unitsCurrency
        cost := ((positions.filterMap Position.cost).map fun paid => some paid.number).foldl
          NumberLayout.observe layout.cost
        costCurrency := ((positions.filterMap Position.cost).map fun paid =>
          Text.width paid.currency).foldl max layout.costCurrency
        hasCost := layout.hasCost || positions.any (·.cost.isSome) } := by
  induction positions generalizing layout with
  | nil => simp [observeAll]
  | cons held positions ih =>
      obtain ⟨units, cost⟩ := held
      rw [observeAll, List.foldl_cons, ← observeAll, ih]
      cases cost with
      | none => simp [observe, observeUnits]
      | some paid => simp [observe, observeUnits, observeCost]

/-- Units and costs laid out each by themselves: the numbers as a column of numbers, the currencies
as wide as the widest. There is room for costs if some position has one. -/
def composed (positions : List Position) : PositionLayout where
  units := .learned (positions.map fun held => some held.units.number)
  unitsCurrency := widest (positions.map (·.units.currency))
  cost := .learned ((positions.filterMap Position.cost).map fun paid => some paid.number)
  costCurrency := widest ((positions.filterMap Position.cost).map Amount.currency)
  hasCost := positions.any (·.cost.isSome)

theorem learned_eq_composed (positions : List Position) :
    learned positions = composed positions := by
  rw [learned, observeAll_eq]
  simp [composed, settle, empty, NumberLayout.learned, NumberLayout.empty, widest,
    Function.comp_def]

/-- The units of a position: the number in its field and the currency in its own. -/
def unitsPart (layout : PositionLayout) (units : Amount) : List Char :=
  layout.units.chars (some units.number) ++ ' ' :: Text.padded layout.unitsCurrency units.currency

/-- The cost of a position in braces, or blanks if it has none. -/
def costPart (layout : PositionLayout) : Option Amount → List Char
  | none => List.replicate layout.costWidth ' '
  | some paid =>
      '\x7b' :: (layout.cost.chars (some paid.number) ++
        ' ' :: (Text.padded layout.costCurrency paid.currency ++ ['\x7d']))

/-- The cost stands in the line, its braces, point and currency where those of all costs stand. -/
structure AlignedCost (layout : PositionLayout) (paid : Amount) (shown : List Char) : Prop where
  hasCost : layout.hasCost = true
  number : layout.cost.Aligned paid.number (layout.cost.chars (some paid.number))
  opening : Text.StandsAt shown (layout.unitsWidth + 1) ['\x7b']
  point : 0 < layout.cost.places →
    Text.StandsAt shown (layout.unitsWidth + 2 + layout.cost.pointOffset) ['.']
  currency : Text.StandsAt shown (layout.unitsWidth + 2 + layout.cost.width + 1)
    paid.currency.toList
  closing : Text.StandsAt shown (layout.width - 1) ['\x7d']

/-- The line of a position: its units and, in a column with costs, its cost or as many blanks. Every
part stands at a column that the layout alone decides. -/
structure Aligned (layout : PositionLayout) (held : Position) (shown : List Char) : Prop where
  parts : shown = layout.unitsPart held.units ++
    (if layout.hasCost then ' ' :: layout.costPart held.cost else [])
  unitsColumns : Text.columns (layout.unitsPart held.units) = layout.unitsWidth
  costColumns : Text.columns (layout.costPart held.cost) = layout.costWidth
  number : layout.units.Aligned held.units.number (layout.units.chars (some held.units.number))
  point : 0 < layout.units.places → Text.StandsAt shown layout.units.pointOffset ['.']
  currency : Text.StandsAt shown (layout.units.width + 1) held.units.currency.toList
  cost : ∀ paid ∈ held.cost, layout.AlignedCost paid shown

theorem toList_format_eq_parts {layout : PositionLayout} {held : Position}
    (h : layout.Seen held) :
    (layout.format held).toList = layout.unitsPart held.units ++
      (if layout.hasCost then ' ' :: layout.costPart held.cost else []) := by
  obtain ⟨-, hUnitsRoom, hCosts⟩ := (seen_iff layout held).mp h
  have hUnits : (layout.formatUnits held.units).toList = layout.unitsPart held.units := by
    rw [toList_formatUnits, Text.toList_fit_of_le hUnitsRoom]
    rfl
  have hCost : (layout.formatCost held.cost).toList = layout.costPart held.cost := by
    cases hPaid : held.cost with
    | none => exact Text.toList_spaces layout.costWidth
    | some paid =>
        obtain ⟨-, -, hPaidRoom⟩ := hCosts paid hPaid
        rw [toList_formatCost_some, Text.toList_fit_of_le hPaidRoom]
        rfl
  rw [format]
  split
  · simp [hUnits, hCost]
  · simp [hUnits]

section
variable {numbers : NumberLayout} {amount : Amount} {room : Nat}

/-- A number in its field and its currency behind it take the room of both. -/
theorem columns_amount (hNumber : (numbers.chars (some amount.number)).length = numbers.width)
    (hRoom : Text.width amount.currency ≤ room) :
    Text.columns (numbers.chars (some amount.number) ++
      ' ' :: Text.padded room amount.currency) = numbers.width + 1 + room := by
  rw [Text.columns_append_cons Text.separates_space, NumberLayout.columns_chars, hNumber,
    Text.columns_padded hRoom]

theorem standsAt_point (hAligned : numbers.Aligned amount.number (numbers.chars (some amount.number)))
    (hPlaces : 0 < numbers.places) (more : List Char) :
    Text.StandsAt (numbers.chars (some amount.number) ++ more) numbers.pointOffset ['.'] := by
  refine Text.StandsAt.append (Text.standsAt_of_getElem? ?_ ?_) more
  · exact fun _ hMem => NumberLayout.isPlain_of_mem_chars hMem
  · exact hAligned.getElem?_pointOffset hPlaces

theorem standsAt_currency
    (hNumber : (numbers.chars (some amount.number)).length = numbers.width) (more : List Char) :
    Text.StandsAt (numbers.chars (some amount.number) ++
      ' ' :: (Text.padded room amount.currency ++ more)) (numbers.width + 1)
        amount.currency.toList := by
  have hStart := Text.standsAt_start amount.currency.toList
    (List.replicate (room - Text.width amount.currency) ' ' ++ more)
  have hBehind := hStart.behind Text.separates_space (numbers.chars (some amount.number))
  rwa [NumberLayout.columns_chars, hNumber, ← List.append_assoc] at hBehind

end

theorem columns_unitsPart {layout : PositionLayout} {held : Position} (hSettled : layout.IsSettled)
    (hSeen : layout.Seen held) :
    Text.columns (layout.unitsPart held.units) = layout.unitsWidth := by
  obtain ⟨hUnitsSeen, hUnitsRoom, -⟩ := (seen_iff layout held).mp hSeen
  exact columns_amount (NumberLayout.length_chars_of_seen hSettled.units hUnitsSeen) hUnitsRoom

theorem separates_opening : Text.separates '\x7b' = true := by decide

section
variable {layout : PositionLayout} {paid : Amount} (hSettled : layout.IsSettled)
  (hSeen : layout.cost.Seen paid.number) (hRoom : Text.width paid.currency ≤ layout.costCurrency)
include hSettled hSeen hRoom

theorem columns_costPart_some :
    Text.columns (layout.costPart (some paid)) = layout.costWidth := by
  have hAmount := columns_amount (NumberLayout.length_chars_of_seen hSettled.cost hSeen) hRoom
  have hClose : Text.separates '\x7d' = true := by decide
  rw [costPart, Text.columns_cons separates_opening, ← List.cons_append, ← List.append_assoc,
    Text.columns_append_cons hClose, hAmount, Text.columns_nil, costWidth]

/-- Behind the units, every part of a cost stands where the widths in front of it put it. -/
theorem alignedCost_of_seen (hHas : layout.hasCost = true) {front : List Char}
    (hFront : Text.columns front = layout.unitsWidth) :
    layout.AlignedCost paid (front ++ ' ' :: layout.costPart (some paid)) := by
  have hLength := NumberLayout.length_chars_of_seen hSettled.cost hSeen
  have hAligned := NumberLayout.aligned_of_seen hSettled.cost hSeen
  have hAmount := columns_amount hLength hRoom
  have hBehind {part : List Char} {column : Nat}
      (h : Text.StandsAt (layout.costPart (some paid)) column part) :
      Text.StandsAt (front ++ ' ' :: layout.costPart (some paid))
        (layout.unitsWidth + 1 + column) part := by
    have hStands := h.behind Text.separates_space front
    rwa [hFront] at hStands
  have hInside {part : List Char} {column : Nat}
      (h : Text.StandsAt (layout.cost.chars (some paid.number) ++
        ' ' :: (Text.padded layout.costCurrency paid.currency ++ ['\x7d'])) column part) :
      Text.StandsAt (front ++ ' ' :: layout.costPart (some paid))
        (layout.unitsWidth + 2 + column) part := by
    have hStands := hBehind (h.behind separates_opening [])
    rwa [Text.columns_nil, Nat.zero_add, ← Nat.add_assoc] at hStands
  have hClosing : Text.StandsAt (layout.costPart (some paid)) (layout.costWidth - 1) ['\x7d'] := by
    refine ⟨'\x7b' :: (layout.cost.chars (some paid.number) ++
      ' ' :: Text.padded layout.costCurrency paid.currency), [], by simp [costPart], ?_⟩
    rw [Text.columns_cons separates_opening, hAmount, costWidth]
    omega
  refine ⟨hHas, hAligned, hBehind (Text.standsAt_start ['\x7b'] _),
    fun hPlaces => hInside (standsAt_point hAligned hPlaces _), ?_, ?_⟩
  · have hCurrency := hInside (standsAt_currency hLength ['\x7d'])
    rwa [← Nat.add_assoc] at hCurrency
  · have hEnd := hBehind hClosing
    have hWidth : layout.width - 1 = layout.unitsWidth + 1 + (layout.costWidth - 1) := by
      rw [width, if_pos hHas, costWidth]
      omega
    rwa [← hWidth] at hEnd

end

/-- A settled layout aligns every position that it has seen. -/
theorem aligned_of_seen {layout : PositionLayout} {held : Position} (hSettled : layout.IsSettled)
    (hSeen : layout.Seen held) : layout.Aligned held (layout.format held).toList := by
  obtain ⟨hUnitsSeen, -, hCosts⟩ := (seen_iff layout held).mp hSeen
  have hAligned := NumberLayout.aligned_of_seen hSettled.units hUnitsSeen
  have hUnits := columns_unitsPart hSettled hSeen
  rw [toList_format_eq_parts hSeen]
  refine ⟨rfl, hUnits, ?_, hAligned, fun hPlaces => ?_, ?_, ?_⟩
  · cases hPaid : held.cost with
    | none => exact Text.columns_replicate Text.separates_space layout.costWidth
    | some paid =>
        obtain ⟨-, hPaidSeen, hPaidRoom⟩ := hCosts paid hPaid
        exact columns_costPart_some hSettled hPaidSeen hPaidRoom
  · exact Text.StandsAt.append (standsAt_point hAligned hPlaces _) _
  · rw [unitsPart, List.append_assoc, List.cons_append]
    exact standsAt_currency (NumberLayout.length_chars_of_seen hSettled.units hUnitsSeen) _
  · intro paid hPaid
    obtain ⟨hHas, hPaidSeen, hPaidRoom⟩ := hCosts paid hPaid
    rw [if_pos hHas, Option.mem_def.mp hPaid]
    exact alignedCost_of_seen hSettled hPaidSeen hPaidRoom hHas hUnits

theorem aligned_composed {positions : List Position} {held : Position} (h : held ∈ positions) :
    (composed positions).Aligned held ((composed positions).format held).toList := by
  rw [← learned_eq_composed]
  exact aligned_of_seen rfl (seen_observeAll h empty).settle

end PositionLayout

/-- The positions that a cell holds, be it one or an inventory. -/
def Cell.held : Cell → List Position
  | some (.position held) => [held]
  | some (.inventory held) => held.positions
  | _ => []

namespace ColumnLayout

/-- A column of positions, or else of inventories, with this layout. -/
def ofPositions (type : ValueType) (layout : PositionLayout) : ColumnLayout :=
  if type = .position then position layout else inventory layout

theorem see_ofPositions {type : ValueType} (hType : type = .position ∨ type = .inventory)
    (layout : PositionLayout) {cell : Cell} (hCell : cell.HasType type) :
    (ofPositions type layout).see cell = ofPositions type (layout.observeAll cell.held) := by
  rcases cell with _ | value
  · rcases hType with rfl | rfl <;> rfl
  · have hValue : value.type = type := hCell value rfl
    rcases hType with rfl | rfl
    · cases value with
      | position held => exact see_position layout _
      | _ => cases hValue
    · cases value with
      | inventory held => exact see_inventory layout _
      | _ => cases hValue

theorem foldl_see_ofPositions {type : ValueType} (hType : type = .position ∨ type = .inventory)
    (layout : PositionLayout) {cells : List Cell} (hCells : ∀ cell ∈ cells, cell.HasType type) :
    cells.foldl see (ofPositions type layout) =
      ofPositions type (layout.observeAll (cells.flatMap Cell.held)) := by
  induction cells generalizing layout with
  | nil => rfl
  | cons cell cells ih =>
      obtain ⟨hHead, hTail⟩ := List.forall_mem_cons.mp hCells
      rw [List.foldl_cons, see_ofPositions hType layout hHead, ih _ hTail, List.flatMap_cons,
        PositionLayout.observeAll, PositionLayout.observeAll, PositionLayout.observeAll,
        List.foldl_append]

/-- The layout of a column of positions or inventories is that of all positions in its cells. -/
theorem learned_eq_ofPositions {type : ValueType} (hType : type = .position ∨ type = .inventory)
    {cells : List Cell} (hCells : ∀ cell ∈ cells, cell.HasType type) :
    learned type cells = ofPositions type (.composed (cells.flatMap Cell.held)) := by
  have hEmpty : empty type = ofPositions type .empty := by
    rcases hType with rfl | rfl <;> rfl
  rw [learned, hEmpty, foldl_see_ofPositions hType _ hCells, ← PositionLayout.learned_eq_composed]
  rcases hType with rfl | rfl <;> rfl

/-- The line of a position is the one with its place among the positions of the cell. -/
theorem exists_line_of_held {type : ValueType} (layout : PositionLayout) {cell : Cell}
    (hType : type = .position ∨ type = .inventory) (hCell : cell.HasType type) :
    ∃ block, (ofPositions type layout).format cell = .ok block ∧
      ∀ index held, cell.held[index]? = some held →
        block.line? index = some (layout.format held) := by
  rcases cell with _ | value
  · rcases hType with rfl | rfl <;> exact ⟨_, rfl, fun _ _ hAt => nomatch hAt⟩
  · have hValue : value.type = type := hCell value rfl
    rcases hType with rfl | rfl
    · cases value with
      | position only =>
          refine ⟨_, rfl, fun index held hAt => ?_⟩
          obtain ⟨rfl, rfl⟩ : index = 0 ∧ only = held := by
            simpa [Cell.held, List.getElem?_singleton] using hAt
          rfl
      | _ => cases hValue
    · cases value with
      | inventory all =>
          refine ⟨_, rfl, fun index held hAt => ?_⟩
          have hAt : all.positions[index]? = some held := hAt
          have hSome : all.positions.map layout.format ≠ [] := by
            simpa using List.ne_nil_of_mem (List.mem_of_getElem? hAt)
          rw [Block.line?, Block.lines_ofLines hSome, List.getElem?_map, hAt, Option.map_some]
      | _ => cases hValue

/-- A column of positions or inventories observes all its cells, and is laid out for all positions in
them. Every position has a line of its cell in which its number, its currency and its cost stand
where those of all other positions stand. -/
theorem positions_are_aligned (type : ValueType) (cells : List Cell)
    (hType : type = .position ∨ type = .inventory) (hCells : ∀ cell ∈ cells, cell.HasType type) :
    let layout := PositionLayout.composed (cells.flatMap Cell.held)
    ∃ observed, cells.foldlM observe (empty type) = .ok observed ∧
      observed.settle = ofPositions type layout ∧
      ∀ cell ∈ cells, ∃ block, observed.settle.format cell = .ok block ∧
        ∀ index held, cell.held[index]? = some held →
          ∃ line, block.line? index = some line ∧ layout.Aligned held line.toList := by
  intro layout
  have hLearned : learned type cells = ofPositions type layout :=
    learned_eq_ofPositions hType hCells
  have hObserved : cells.foldlM observe (empty type) = .ok (cells.foldl see (empty type)) :=
    foldlM_observe_of_hasType fun cell hCell => by simpa using hCells cell hCell
  refine ⟨_, hObserved, hLearned, fun cell hCell => ?_⟩
  obtain ⟨block, hFormat, hLines⟩ := exists_line_of_held layout hType (hCells cell hCell)
  refine ⟨block, (congrArg (·.format cell) hLearned).trans hFormat, fun index held hAt => ?_⟩
  refine ⟨_, hLines index held hAt, PositionLayout.aligned_composed ?_⟩
  exact List.mem_flatMap.mpr ⟨cell, hCell, List.mem_of_getElem? hAt⟩

/-- A position with a cost above an inventory's position without one: the line of the second has
blanks where the cost of the first stands. -/
theorem position_without_cost_is_aligned :
    let paid : Position :=
      ⟨⟨⟨false, 10, 0, by decide, by decide⟩, "HOOL"⟩,
        some ⟨⟨false, 5025, 2, by decide, by decide⟩, "USD"⟩⟩
    let unpaid : Position := ⟨⟨⟨true, 15, 1, by decide, by decide⟩, "EUR"⟩, none⟩
    let cells : List Cell := [some (.inventory ⟨[paid, unpaid]⟩), none]
    let layout := PositionLayout.composed (cells.flatMap Cell.held)
    (∀ cell ∈ cells, cell.HasType .inventory) ∧
      layout.format paid = " 10.0 HOOL \x7b50.25 USD\x7d" ∧
      layout.format unpaid = " -1.5 EUR             " ∧
      ∃ observed block line, cells.foldlM observe (empty .inventory) = .ok observed ∧
        observed.settle.format (some (.inventory ⟨[paid, unpaid]⟩)) = .ok block ∧
          block.line? 1 = some line ∧ layout.Aligned unpaid line.toList := by
  intro paid unpaid cells layout
  have hCells : ∀ cell ∈ cells, cell.HasType .inventory := by
    simp [cells, Cell.HasType, Value.type]
  obtain ⟨observed, hObserved, -, hBlocks⟩ :=
    positions_are_aligned .inventory cells (Or.inr rfl) hCells
  obtain ⟨block, hFormat, hLines⟩ := hBlocks _ List.mem_cons_self
  obtain ⟨line, hLine, hAligned⟩ := hLines 1 unpaid rfl
  exact ⟨hCells, by decide +kernel, by decide +kernel, observed, block, line, hObserved, hFormat,
    hLine, hAligned⟩

end ColumnLayout

end Tabular
