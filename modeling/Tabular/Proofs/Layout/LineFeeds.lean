import Mathlib
import Tabular.Proofs.Date.ReadBack
import Tabular.Proofs.Layout.Field

/-!
The line feeds that cells show. Texts and currencies are shown as they are, so their line feeds are
those of the cell's lines; numbers, dates and blanks have none.
-/

namespace Tabular

/-- The number of line feeds in a text. -/
def Text.lineFeeds (text : String) : Nat :=
  text.toList.count '\n'

/-- The currencies of a position. -/
def Position.currencies (position : Position) : List String :=
  position.units.currency :: (position.cost.map Amount.currency).toList

/-- The texts that a cell shows as they are. -/
def Cell.texts : Cell → List String
  | some (.string text) => [text]
  | some (.position held) => held.currencies
  | some (.inventory held) => held.positions.flatMap Position.currencies
  | _ => []

namespace Text

theorem lineFeeds_append (left right : String) :
    lineFeeds (left ++ right) = lineFeeds left + lineFeeds right := by
  rw [lineFeeds, String.toList_append, List.count_append]
  rfl

theorem lineFeeds_eq_zero_iff {text : String} : lineFeeds text = 0 ↔ '\n' ∉ text.toList :=
  List.count_eq_zero

theorem ne_lineFeed_of_isPlain {c : Char} (h : isPlain c = true) : c ≠ '\n' := by
  rintro rfl
  exact absurd h (by decide)

theorem lineFeeds_of_isPlain {text : String} (h : ∀ c ∈ text.toList, isPlain c = true) :
    lineFeeds text = 0 := by
  refine lineFeeds_eq_zero_iff.mpr fun hMem => ?_
  exact ne_lineFeed_of_isPlain (h _ hMem) rfl

theorem count_blanks (count : Nat) : (List.replicate count ' ').count '\n' = 0 := by
  refine List.count_eq_zero.mpr fun hMem => ?_
  exact absurd (List.mem_replicate.mp hMem).2 (by decide)

theorem lineFeeds_spaces (count : Nat) : lineFeeds (spaces count) = 0 := by
  rw [lineFeeds, toList_spaces, count_blanks]

/-- Cutting a text and filling it up adds no line feed. -/
theorem lineFeeds_fit_le (text : String) (limit : Nat) :
    lineFeeds (fit text limit) ≤ lineFeeds text := by
  rw [lineFeeds, toList_fit, List.count_append, count_blanks, Nat.add_zero]
  exact (cut_isPrefix limit text.toList).sublist.count_le _

/-- A text that fits keeps its line feeds. -/
theorem lineFeeds_fit {text : String} {limit : Nat} (h : width text ≤ limit) :
    lineFeeds (fit text limit) = lineFeeds text := by
  rw [lineFeeds, toList_fit, cut_of_le h, List.count_append, count_blanks, Nat.add_zero]
  rfl

end Text

theorem Date.lineFeeds_text (day : Date) : Text.lineFeeds day.text = 0 := by
  refine Text.lineFeeds_of_isPlain fun c hMem => ?_
  rw [toList_text] at hMem
  exact isPlain_of_mem_chars hMem

theorem NumberLayout.lineFeeds_format (layout : NumberLayout) (number : Option Decimal) :
    Text.lineFeeds (layout.format number) = 0 := by
  refine Text.lineFeeds_of_isPlain fun c hMem => ?_
  rw [toList_format] at hMem
  exact isPlain_of_mem_chars hMem

namespace PositionLayout

theorem lineFeeds_formatUnits {layout : PositionLayout} {units : Amount}
    (h : Text.width units.currency ≤ layout.unitsCurrency) :
    Text.lineFeeds (layout.formatUnits units) = Text.lineFeeds units.currency := by
  have hSpace : Text.lineFeeds " " = 0 := rfl
  rw [formatUnits, Text.lineFeeds_append, Text.lineFeeds_append,
    NumberLayout.lineFeeds_format, hSpace, Text.lineFeeds_fit h]
  omega

theorem lineFeeds_formatCost {layout : PositionLayout} {cost : Amount}
    (h : Text.width cost.currency ≤ layout.costCurrency) :
    Text.lineFeeds (layout.formatCost (some cost)) = Text.lineFeeds cost.currency := by
  have hOpen : Text.lineFeeds "\x7b" = 0 := rfl
  have hSpace : Text.lineFeeds " " = 0 := rfl
  have hClose : Text.lineFeeds "\x7d" = 0 := rfl
  rw [formatCost]
  simp only [Text.lineFeeds_append, NumberLayout.lineFeeds_format, hOpen, hSpace, hClose,
    Text.lineFeeds_fit h]
  omega

/-- A position that has been seen shows the line feeds of its currencies. -/
theorem lineFeeds_format {layout : PositionLayout} {position : Position}
    (h : layout.Seen position) :
    Text.lineFeeds (layout.format position) =
      (position.currencies.map Text.lineFeeds).sum := by
  obtain ⟨-, hUnits, hCosts⟩ := (seen_iff layout position).mp h
  have hSpace : Text.lineFeeds " " = 0 := rfl
  rw [format, Position.currencies]
  cases hPaid : position.cost with
  | none =>
      have hBlank : Text.lineFeeds (layout.formatCost none) = 0 := Text.lineFeeds_spaces _
      split
      · rw [Text.lineFeeds_append, Text.lineFeeds_append, lineFeeds_formatUnits hUnits, hSpace,
          hBlank]
        rfl
      · rw [lineFeeds_formatUnits hUnits]
        rfl
  | some paid =>
      obtain ⟨hHas, -, hCurrency⟩ := hCosts paid hPaid
      rw [if_pos hHas, Text.lineFeeds_append, Text.lineFeeds_append,
        lineFeeds_formatUnits hUnits, hSpace, lineFeeds_formatCost hCurrency]
      simp

end PositionLayout

namespace ColumnLayout

theorem lineFeeds_soleLine {layout : ColumnLayout} {cell : Cell} (hType : cell.HasType layout.type)
    (hSeen : layout.Seen cell) (hNone : cell.positions = []) :
    Text.lineFeeds (layout.soleLine cell) = (cell.texts.map Text.lineFeeds).sum := by
  rcases cell with _ | value
  · cases layout <;> exact Text.lineFeeds_spaces _
  · have hValue : value.type = layout.type := hType value rfl
    cases value with
    | string text =>
        cases layout with
        | string widest =>
            rw [Seen, see_string, string.injEq] at hSeen
            have hRoom : Text.width text ≤ widest := max_eq_left_iff.mp hSeen
            show Text.lineFeeds (Text.fit text widest) = Text.lineFeeds text + 0
            rw [Text.lineFeeds_fit hRoom, Nat.add_zero]
        | _ => cases hValue
    | date day =>
        cases layout with
        | date =>
            have hLe := Text.lineFeeds_fit_le day.text dateWidth
            rw [Date.lineFeeds_text] at hLe
            exact Nat.le_zero.mp hLe
        | _ => cases hValue
    | decimal number =>
        cases layout with
        | decimal numbers => exact numbers.lineFeeds_format (some number)
        | _ => cases hValue
    | position held =>
        cases layout with
        | position positions =>
            rw [Seen, see_position, position.injEq, PositionLayout.observeAll_eq_iff] at hSeen
            exact PositionLayout.lineFeeds_format (hSeen held (List.mem_singleton_self held))
        | _ => cases hValue
    | inventory held =>
        have hEmpty : held.positions = [] := hNone
        cases layout with
        | inventory positions =>
            rw [Cell.texts, hEmpty]
            exact Text.lineFeeds_spaces _
        | _ => cases hValue

theorem lineFeeds_positionLine {layout : ColumnLayout} {cell : Cell}
    (hType : cell.HasType layout.type) (hSeen : layout.Seen cell) {held : Position}
    (h : held ∈ cell.positions) :
    Text.lineFeeds (layout.positionLine held) = (held.currencies.map Text.lineFeeds).sum := by
  rcases cell with _ | value
  · cases h
  · have hValue : value.type = layout.type := hType value rfl
    cases value with
    | inventory inventory =>
        cases layout with
        | inventory positions =>
            rw [Seen, see_inventory, ColumnLayout.inventory.injEq,
              PositionLayout.observeAll_eq_iff] at hSeen
            exact PositionLayout.lineFeeds_format (hSeen held h)
        | _ => cases hValue
    | _ => cases h

theorem texts_of_positions_ne_nil {cell : Cell} (h : cell.positions ≠ []) :
    cell.texts = cell.positions.flatMap Position.currencies := by
  rcases cell with _ | value
  · exact absurd rfl h
  · cases value with
    | inventory held => rfl
    | _ => exact absurd rfl h

/-- The lines that a cell is rendered to have the line feeds of its texts. -/
theorem sum_lineFeeds_lines {layout : ColumnLayout} {cell : Cell} (h : layout.Holds cell)
    {block : Block} (hFormat : layout.format cell = .ok block) :
    (block.lines.map Text.lineFeeds).sum = (cell.texts.map Text.lineFeeds).sum := by
  by_cases hNone : cell.positions = []
  · rw [format_of_positions_eq_nil h.hasType hNone, Except.ok.injEq] at hFormat
    subst hFormat
    rw [Block.lines_single, List.map_singleton, List.sum_singleton]
    exact lineFeeds_soleLine h.hasType h.seen hNone
  · obtain ⟨other, hOther, hLines⟩ := format_of_positions_ne_nil h.hasType hNone
    rw [hOther, Except.ok.injEq] at hFormat
    subst hFormat
    rw [hLines, texts_of_positions_ne_nil hNone, List.map_map, List.map_flatMap,
      List.flatMap_def, List.sum_flatten, List.map_map]
    congr 1
    exact List.map_congr_left fun held hMem => lineFeeds_positionLine h.hasType h.seen hMem

/-- The fields of a cell in the lines of its row have the line feeds of the cell's texts. -/
theorem sum_lineFeeds_fieldAt {layout : ColumnLayout} {cell : Cell} (h : layout.Holds cell)
    {count : Nat} (hEnough : max 1 cell.positions.length ≤ count) :
    ((List.range count).map fun index => Text.lineFeeds (layout.fieldAt cell index)).sum =
      (cell.texts.map Text.lineFeeds).sum := by
  obtain ⟨block, hFormat, hLines⟩ := map_fieldAt_range h.hasType hEnough
  have hMap : ((List.range count).map fun index => Text.lineFeeds (layout.fieldAt cell index)) =
      ((List.range count).map (layout.fieldAt cell)).map Text.lineFeeds := by
    rw [List.map_map]
    rfl
  rw [hMap, hLines, List.rightpad, List.map_append, List.sum_append, List.map_replicate,
    Text.lineFeeds_spaces, List.sum_replicate, smul_zero, Nat.add_zero,
    sum_lineFeeds_lines h hFormat]

end ColumnLayout

end Tabular
