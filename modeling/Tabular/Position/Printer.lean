import Tabular.Decimal.Printer
import Tabular.Position.Basic

/-!
The texts of amounts and positions, such as `10 HOOL` and `10 HOOL {500.00 USD}`.
-/

namespace Tabular

/-- Number and currency, with a space between them. -/
def Amount.text (amount : Amount) : String :=
  amount.number.text ++ " " ++ amount.currency

/-- The units, followed by the cost in braces if there is one. -/
def Position.text (position : Position) : String :=
  match position.cost with
  | none => position.units.text
  | some cost => position.units.text ++ " \x7b" ++ cost.text ++ "\x7d"

end Tabular
