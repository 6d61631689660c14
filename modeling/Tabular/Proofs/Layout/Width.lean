import Tabular.Proofs.Decimal.Printed
import Tabular.Proofs.Layout.Observation

/-!
The widths of formatted cells. A settled layout renders every value it has seen to lines of exactly
the layout's width. A number it has no room for takes its own length instead.
-/

namespace Tabular

theorem Text.width_spaces (count : Nat) : Text.width (Text.spaces count) = count := by
  rw [Text.width, Text.toList_spaces, Text.columns_replicate Text.separates_space]

/-- Two texts with a space between them take the room of both. -/
theorem Text.width_append_space (left right : String) :
    Text.width (left ++ " " ++ right) = Text.width left + 1 + Text.width right := by
  have hList : (left ++ " " ++ right).toList = left.toList ++ ' ' :: right.toList := by simp
  rw [Text.width, hList, Text.columns_append_cons Text.separates_space]
  rfl

namespace NumberLayout

theorem isPlain_of_mem_chars {layout : NumberLayout} {number : Option Decimal} {c : Char}
    (h : c ∈ layout.chars number) : Text.isPlain c = true := by
  cases number with
  | none =>
      rw [(List.mem_replicate.mp h).2]
      decide
  | some d =>
      rw [chars, List.leftpad, List.mem_append] at h
      rcases h with hPad | hDigit
      · rw [(List.mem_replicate.mp hPad).2]
        decide
      · exact Decimal.isPlain_of_mem_charsTo hDigit

theorem columns_chars (layout : NumberLayout) (number : Option Decimal) :
    Text.columns (layout.chars number) = (layout.chars number).length :=
  Text.columns_of_isPlain fun _ h => isPlain_of_mem_chars h

/-- A number takes its field, or its own length if that is more. -/
theorem length_chars_some (layout : NumberLayout) (d : Decimal) :
    (layout.chars (some d)).length = max layout.width (d.charsTo layout.places).length := by
  rw [chars, List.length_leftpad]

/-- The layout is settled for all numbers observed. -/
def IsSettled (layout : NumberLayout) : Prop :=
  layout.settle = layout

theorem IsSettled.settled_eq {layout : NumberLayout} (h : layout.IsSettled) :
    layout.settled = layout.observed :=
  (congrArg NumberLayout.settled h).symm

/-- A settled layout has room for every number it has seen. -/
theorem length_charsTo_le {layout : NumberLayout} {d : Decimal} (hSettled : layout.IsSettled)
    (hSeen : layout.Seen d) : (d.charsTo layout.places).length ≤ layout.width := by
  obtain ⟨hSign, hWhole, hPlaces⟩ := (seen_iff layout d).mp hSeen
  rw [Decimal.length_charsTo, width, Extent.width, places, hSettled.settled_eq,
    Nat.max_eq_right hPlaces]
  have hSignWidth : (if d.negative then 1 else 0) ≤ if layout.observed.negative then 1 else 0 := by
    split
    · next hNegative => exact Nat.le_of_eq (if_pos (hSign hNegative)).symm
    · exact Nat.zero_le _
  omega

theorem length_chars_of_seen {layout : NumberLayout} {d : Decimal} (hSettled : layout.IsSettled)
    (hSeen : layout.Seen d) : (layout.chars (some d)).length = layout.width := by
  rw [length_chars_some, Nat.max_eq_left (length_charsTo_le hSettled hSeen)]

theorem width_format_of_seen {layout : NumberLayout} {d : Decimal} (hSettled : layout.IsSettled)
    (hSeen : layout.Seen d) : Text.width (layout.format (some d)) = layout.width := by
  rw [Text.width, toList_format, columns_chars, length_chars_of_seen hSettled hSeen]

end NumberLayout

namespace PositionLayout

theorem toList_formatUnits (layout : PositionLayout) (units : Amount) :
    (layout.formatUnits units).toList =
      layout.units.chars (some units.number) ++
        ' ' :: (Text.fit units.currency layout.unitsCurrency).toList := by
  simp [formatUnits]

theorem toList_formatCost_some (layout : PositionLayout) (cost : Amount) :
    (layout.formatCost (some cost)).toList =
      '\x7b' :: (layout.cost.chars (some cost.number) ++
        ' ' :: ((Text.fit cost.currency layout.costCurrency).toList ++ ['\x7d'])) := by
  simp [formatCost]

/-- Currencies are brought to the width of the widest, so only the number can take more room. -/
theorem width_formatUnits (layout : PositionLayout) (units : Amount) :
    Text.width (layout.formatUnits units) =
      Text.width (layout.units.format (some units.number)) + 1 + layout.unitsCurrency := by
  rw [formatUnits, Text.width_append_space, Text.width_fit]

theorem width_formatCost_some (layout : PositionLayout) (cost : Amount) :
    Text.width (layout.formatCost (some cost)) =
      Text.width (layout.cost.format (some cost.number)) + 1 + layout.costCurrency + 2 := by
  have hOpen : Text.separates '\x7b' = true := by decide
  have hClose : Text.separates '\x7d' = true := by decide
  have hCurrency := Text.width_fit cost.currency layout.costCurrency
  rw [Text.width] at hCurrency
  rw [Text.width, toList_formatCost_some, Text.columns_cons hOpen,
    Text.columns_append_cons Text.separates_space, Text.columns_append_cons hClose, hCurrency,
    Text.columns_nil, Text.width, NumberLayout.toList_format]
  omega

theorem width_formatCost_none (layout : PositionLayout) :
    Text.width (layout.formatCost none) = layout.costWidth :=
  Text.width_spaces layout.costWidth

theorem width_format (layout : PositionLayout) (position : Position) :
    Text.width (layout.format position) =
      Text.width (layout.formatUnits position.units) +
        if layout.hasCost then 1 + Text.width (layout.formatCost position.cost) else 0 := by
  rw [format]
  split
  · rw [Text.width_append_space, Nat.add_assoc]
  · rw [Nat.add_zero]

/-- The layout is settled for all positions observed. -/
def IsSettled (layout : PositionLayout) : Prop :=
  layout.settle = layout

theorem IsSettled.units {layout : PositionLayout} (h : layout.IsSettled) :
    layout.units.IsSettled :=
  congrArg PositionLayout.units h

theorem IsSettled.cost {layout : PositionLayout} (h : layout.IsSettled) :
    layout.cost.IsSettled :=
  congrArg PositionLayout.cost h

theorem width_format_of_seen {layout : PositionLayout} {position : Position}
    (hSettled : layout.IsSettled) (hSeen : layout.Seen position) :
    Text.width (layout.format position) = layout.width := by
  obtain ⟨hUnits, -, hCosts⟩ := (seen_iff layout position).mp hSeen
  have hCost : layout.hasCost = true →
      Text.width (layout.formatCost position.cost) = layout.costWidth := by
    intro hHas
    cases hPaid : position.cost with
    | none => exact width_formatCost_none layout
    | some paid =>
        obtain ⟨-, hNumber, -⟩ := hCosts paid hPaid
        rw [width_formatCost_some, NumberLayout.width_format_of_seen hSettled.cost hNumber,
          costWidth]
  rw [width_format, width_formatUnits, NumberLayout.width_format_of_seen hSettled.units hUnits,
    width, unitsWidth]
  split
  · next hHas =>
    rw [hCost hHas]
    omega
  · rfl

end PositionLayout

namespace ColumnLayout

theorem isSettled_decimal_iff {layout : NumberLayout} :
    (decimal layout).IsSettled ↔ layout.IsSettled := by
  rw [IsSettled, ColumnLayout.settle, decimal.injEq]
  rfl

theorem isSettled_position_iff {layout : PositionLayout} :
    (position layout).IsSettled ↔ layout.IsSettled := by
  rw [IsSettled, ColumnLayout.settle, position.injEq]
  rfl

theorem isSettled_inventory_iff {layout : PositionLayout} :
    (inventory layout).IsSettled ↔ layout.IsSettled := by
  rw [IsSettled, ColumnLayout.settle, inventory.injEq]
  rfl

end ColumnLayout

end Tabular
