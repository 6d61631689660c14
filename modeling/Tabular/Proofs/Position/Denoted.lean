import Tabular.Proofs.Decimal.Exactness
import Tabular.Value

/-!
The texts of the numbers of a cell. A position has one for its units and, if it has a cost, one for
its cost.
-/

namespace Tabular

/-- The texts of the numbers of a position, or of a number alone. -/
structure NumberTexts where
  units : List Char
  cost : Option (List Char)

/-- Text by text they denote the same numbers with the same signs. -/
def NumberTexts.Agree (xs ys : NumberTexts) : Prop :=
  Numeral.Agree xs.units ys.units ∧ Option.Rel Numeral.Agree xs.cost ys.cost

/-- The texts denote the numbers of the position. -/
def Position.DenotedBy (position : Position) (texts : NumberTexts) : Prop :=
  position.units.number.DenotedBy texts.units ∧
    Option.Rel (fun cost text => Decimal.DenotedBy (Amount.number cost) text)
      position.cost texts.cost

/-- The texts denote the numbers of the cell, one after the other. -/
def Cell.DenotedBy (cell : Cell) (texts : List NumberTexts) : Prop :=
  match cell with
  | some (.decimal number) => ∃ text, texts = [⟨text, none⟩] ∧ number.DenotedBy text
  | some (.position held) => ∃ text, texts = [text] ∧ held.DenotedBy text
  | some (.inventory held) => List.Forall₂ Position.DenotedBy held.positions texts
  | _ => texts = []

/-- Texts of the numbers of one position agree. -/
theorem Position.DenotedBy.agree {position : Position} {xs ys : NumberTexts}
    (hLeft : position.DenotedBy xs) (hRight : position.DenotedBy ys) : xs.Agree ys := by
  obtain ⟨xUnits, xCost⟩ := xs
  obtain ⟨yUnits, yCost⟩ := ys
  obtain ⟨hLeftUnits, hLeftCost⟩ := hLeft
  obtain ⟨hRightUnits, hRightCost⟩ := hRight
  refine ⟨hLeftUnits.agree hRightUnits, ?_⟩
  dsimp only at hLeftCost hRightCost ⊢
  cases hCost : position.cost with
  | none =>
      rw [hCost] at hLeftCost hRightCost
      cases hLeftCost
      cases hRightCost
      exact .none
  | some cost =>
      rw [hCost] at hLeftCost hRightCost
      cases hLeftCost with
      | some hLeftNumber =>
          cases hRightCost with
          | some hRightNumber => exact .some (hLeftNumber.agree hRightNumber)

end Tabular
