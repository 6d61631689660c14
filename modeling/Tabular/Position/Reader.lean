import Tabular.Decimal.Reader
import Tabular.Error
import Tabular.Position.Basic

/-!
Reading decimal numbers, amounts, positions and inventories from texts such as `-25.00`,
`25.00 USD`, `10 HOOL {500.00 USD}` and `10 HOOL, 3.5 EUR`.
-/

namespace Tabular

/-- Read a decimal number. -/
def Decimal.parse (text : String) : Except Error Decimal :=
  match Decimal.ofText? text with
  | some number => .ok number
  | none => failure (.invalidDecimal (String.ofList (Text.trim text.toList)))

namespace Amount

/-- Read a number and a currency, two words with blanks between them. -/
def ofChars (cs : List Char) : Except Error Amount :=
  match Text.words cs with
  | [number, currency] => do
      .ok ⟨← Decimal.parse (String.ofList number), String.ofList currency⟩
  | _ => failure (.malformedAmount (String.ofList (Text.trim cs)))

/-- Read an amount. -/
def parse (text : String) : Except Error Amount :=
  ofChars text.toList

end Amount

namespace Position

/-- Read units without blanks around them, and after them the cost in braces if there is one. The
cost begins at the first opening brace and must end with the text. -/
def ofTrimmed (cs : List Char) : Except Error Position :=
  match cs.dropWhile (· != '\x7b') with
  | [] => do .ok ⟨← Amount.ofChars cs, none⟩
  | _ :: cost =>
      if cost.getLast? = some '\x7d' then do
        let units ← Amount.ofChars (cs.takeWhile (· != '\x7b'))
        let cost ← Amount.ofChars cost.dropLast
        .ok ⟨units, some cost⟩
      else failure (.unterminatedCost (String.ofList cs))

/-- Read units, and after them the cost in braces if there is one. -/
def ofChars (cs : List Char) : Except Error Position :=
  ofTrimmed (Text.trim cs)

/-- Read a position. -/
def parse (text : String) : Except Error Position :=
  ofChars text.toList

end Position

namespace Inventory

/-- The parts of a text between its commas, without the blank ones. -/
def parts (cs : List Char) : List (List Char) :=
  ((cs.splitOn ',').map Text.trim).filter (!·.isEmpty)

/-- Read positions with commas between them. A text without any is the empty inventory. -/
def parse (text : String) : Except Error Inventory := do
  .ok ⟨← (parts text.toList).mapM Position.ofChars⟩

end Inventory

end Tabular
