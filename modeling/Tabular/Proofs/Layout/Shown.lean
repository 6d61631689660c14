import Tabular.Proofs.Layout.Field
import Tabular.Proofs.Position.Denoted
import Tabular.Proofs.Text.Words

/-!
The numbers that stand in the lines of a cell, each with blanks around it in a field of its own. A
layout that holds the cell shows them with all their digits and with their signs.
-/

namespace Tabular

/-- Spaces in front of a text without blanks are what trimming drops. -/
theorem Text.trim_leftpad {cs : List Char} (h : ∀ c ∈ cs, isBlank c = false) (count : Nat) :
    trim (cs.leftpad count ' ') = cs := by
  have hTrim : trim (List.replicate (count - cs.length) ' ' ++ cs ++ []) = trim cs :=
    trim_append_append (fun _ => isBlank_of_mem_spaces) (by simp) cs
  rwa [List.append_nil, trim_eq_self h] at hTrim

/-- The text of a number stands in a field of the layout. -/
structure NumberLayout.Shows (layout : NumberLayout) (field text : List Char) : Prop where
  length : field.length = layout.width
  trim : Text.trim field = text

/-- A number that a settled layout has seen stands in its field with all its digits. -/
theorem NumberLayout.exists_shows {layout : NumberLayout} {d : Decimal}
    (hSettled : layout.IsSettled) (hSeen : layout.Seen d) :
    ∃ text, layout.Shows (layout.chars (some d)) text ∧ d.DenotedBy text := by
  refine ⟨d.charsTo layout.places, ⟨length_chars_of_seen hSettled hSeen, ?_⟩,
    d.denotedBy_charsTo layout.places⟩
  exact Text.trim_leftpad (fun _ => Decimal.isBlank_of_mem_charsTo) layout.width

namespace PositionLayout

/-- The texts of a position's numbers stand in the line: first the units with their currency, then
the cost with its currency in braces, or as much room as the costs of other positions take. -/
inductive Shows (layout : PositionLayout) : Position → List Char → NumberTexts → Prop where
  | withoutCost {units : Amount} {field text : List Char} (hUnits : layout.units.Shows field text) :
      Shows layout ⟨units, none⟩
        (field ++ ' ' :: ((Text.fit units.currency layout.unitsCurrency).toList ++
          List.replicate (layout.width - layout.unitsWidth) ' '))
        ⟨text, none⟩
  | withCost {units paid : Amount} {field text costField costText : List Char}
      (hUnits : layout.units.Shows field text) (hCost : layout.cost.Shows costField costText) :
      Shows layout ⟨units, some paid⟩
        (field ++ ' ' :: ((Text.fit units.currency layout.unitsCurrency).toList ++
          ' ' :: '\x7b' :: (costField ++ ' ' :: ((Text.fit paid.currency layout.costCurrency).toList
            ++ ['\x7d']))))
        ⟨text, some costText⟩

theorem toList_format_withoutCost (layout : PositionLayout) (units : Amount) :
    (layout.format ⟨units, none⟩).toList =
      layout.units.chars (some units.number) ++
        ' ' :: ((Text.fit units.currency layout.unitsCurrency).toList ++
          List.replicate (layout.width - layout.unitsWidth) ' ') := by
  rw [format, width]
  split
  · have hRoom : layout.unitsWidth + 1 + layout.costWidth - layout.unitsWidth =
        layout.costWidth + 1 := by omega
    rw [hRoom, List.replicate_succ]
    simp [toList_formatUnits, formatCost]
  · simp [toList_formatUnits]

theorem toList_format_withCost {layout : PositionLayout} (hHas : layout.hasCost = true)
    (units paid : Amount) :
    (layout.format ⟨units, some paid⟩).toList =
      layout.units.chars (some units.number) ++
        ' ' :: ((Text.fit units.currency layout.unitsCurrency).toList ++
          ' ' :: '\x7b' :: (layout.cost.chars (some paid.number) ++
            ' ' :: ((Text.fit paid.currency layout.costCurrency).toList ++ ['\x7d']))) := by
  rw [format, if_pos hHas]
  simp [toList_formatUnits, toList_formatCost_some]

/-- A settled layout shows all numbers of a position that it has seen. -/
theorem exists_shows {layout : PositionLayout} {held : Position} (hSettled : layout.IsSettled)
    (hSeen : layout.Seen held) :
    ∃ texts, layout.Shows held (layout.format held).toList texts ∧ held.DenotedBy texts := by
  obtain ⟨units, cost⟩ := held
  obtain ⟨hUnitsSeen, -, hCostSeen⟩ := (seen_iff layout ⟨units, cost⟩).mp hSeen
  obtain ⟨text, hUnits, hDenoted⟩ := NumberLayout.exists_shows hSettled.units hUnitsSeen
  cases cost with
  | none =>
      rw [toList_format_withoutCost]
      exact ⟨⟨text, none⟩, .withoutCost hUnits, hDenoted, .none⟩
  | some paid =>
      obtain ⟨hHas, hPaidSeen, -⟩ := hCostSeen paid rfl
      obtain ⟨costText, hCost, hCostDenoted⟩ := NumberLayout.exists_shows hSettled.cost hPaidSeen
      rw [toList_format_withCost hHas]
      exact ⟨⟨text, some costText⟩, .withCost hUnits hCost, hDenoted, .some hCostDenoted⟩

end PositionLayout

namespace ColumnLayout

/-- The texts of numbers stand in the line of this index of a cell: those of a number or a position
in its only line, those of an inventory's positions in a line each. -/
inductive Shows : ColumnLayout → Cell → Nat → List Char → NumberTexts → Prop where
  | decimal {layout : NumberLayout} {number : Decimal} {field text : List Char}
      (h : layout.Shows field text) :
      Shows (.decimal layout) (some (.decimal number)) 0 field ⟨text, none⟩
  | position {layout : PositionLayout} {held : Position} {field : List Char} {texts : NumberTexts}
      (h : layout.Shows held field texts) :
      Shows (.position layout) (some (.position held)) 0 field texts
  | inventory {layout : PositionLayout} {held : Inventory} {index : Nat} {position : Position}
      {field : List Char} {texts : NumberTexts} (hAt : held.positions[index]? = some position)
      (h : layout.Shows position field texts) :
      Shows (.inventory layout) (some (.inventory held)) index field texts

theorem Holds.exists_shows_inventory {layout : PositionLayout} {held : Inventory}
    (h : (inventory layout).Holds (some (.inventory held))) {sources : List NumberTexts}
    (hDenoted : List.Forall₂ Position.DenotedBy held.positions sources) {index : Nat}
    {source : NumberTexts} (hAt : sources[index]? = some source) :
    ∃ texts, (inventory layout).Shows (some (.inventory held)) index
      ((inventory layout).fieldAt (some (.inventory held)) index).toList texts ∧
        texts.Agree source := by
  obtain ⟨hSourceIndex, rfl⟩ := List.getElem?_eq_some_iff.mp hAt
  have hIndex : index < held.positions.length := hDenoted.length_eq ▸ hSourceIndex
  have hSource := (List.forall₂_iff_get.mp hDenoted).2 index hIndex hSourceIndex
  have hPosition : held.positions[index]? = some held.positions[index] :=
    List.getElem?_eq_getElem hIndex
  obtain ⟨texts, hShows, hTexts⟩ := PositionLayout.exists_shows
    (isSettled_inventory_iff.mp h.isSettled)
    (seen_inventory_iff.mp h.seen _ (List.getElem_mem hIndex))
  have hField : (inventory layout).fieldAt (some (.inventory held)) index =
      layout.format held.positions[index] := by
    simp [fieldAt, Cell.positions, hPosition, positionLine]
  rw [hField]
  exact ⟨texts, .inventory hPosition hShows, hTexts.agree hSource⟩

/-- A layout shows all numbers of a cell that it holds. What denotes them agrees with what stands in
the cell's lines. -/
theorem Holds.exists_shows {layout : ColumnLayout} {cell : Cell} (h : layout.Holds cell)
    {sources : List NumberTexts} (hDenoted : cell.DenotedBy sources) {index : Nat}
    {source : NumberTexts} (hAt : sources[index]? = some source) :
    ∃ texts, layout.Shows cell index (layout.fieldAt cell index).toList texts ∧
      texts.Agree source := by
  have hNone (hNil : sources = []) : False := by
    rw [hNil] at hAt
    cases hAt
  rcases cell with _ | value
  · exact (hNone hDenoted).elim
  · have hValue : value.type = layout.type := h.hasType value rfl
    cases value with
    | string text => exact (hNone hDenoted).elim
    | date day => exact (hNone hDenoted).elim
    | decimal number =>
        cases layout with
        | decimal numbers =>
            obtain ⟨only, rfl, hSource⟩ := hDenoted
            obtain ⟨rfl, rfl⟩ : index = 0 ∧ ⟨only, none⟩ = source := by
              simpa [List.getElem?_singleton] using hAt
            obtain ⟨text, hShows, hText⟩ := NumberLayout.exists_shows
              (isSettled_decimal_iff.mp h.isSettled) (seen_decimal_iff.mp h.seen)
            have hField : ((decimal numbers).fieldAt (some (.decimal number)) 0).toList =
                numbers.chars (some number) := by
              simp [fieldAt, Cell.positions, soleLine]
            rw [hField]
            exact ⟨⟨text, none⟩, .decimal hShows, hText.agree hSource, .none⟩
        | _ => cases hValue
    | position held =>
        cases layout with
        | position numbers =>
            obtain ⟨only, rfl, hSource⟩ := hDenoted
            obtain ⟨rfl, rfl⟩ : index = 0 ∧ only = source := by
              simpa [List.getElem?_singleton] using hAt
            obtain ⟨texts, hShows, hTexts⟩ := PositionLayout.exists_shows
              (isSettled_position_iff.mp h.isSettled) (seen_position_iff.mp h.seen)
            exact ⟨texts, .position hShows, hTexts.agree hSource⟩
        | _ => cases hValue
    | inventory held =>
        cases layout with
        | inventory numbers =>
            exact Holds.exists_shows_inventory h hDenoted hAt
        | _ => cases hValue

end ColumnLayout

end Tabular
