import Tabular.Decimal.Basic
import Tabular.Text.Blank

/-!
Reading a decimal number, plain (`-12.50`) or with an exponent (`1.5e3`). A number that cannot be
held without rounding is refused.
-/

namespace Tabular.Decimal

/-- A leading sign, and what follows it. -/
def takeSign : List Char → Bool × List Char
  | '-' :: rest => (true, rest)
  | '+' :: rest => (false, rest)
  | rest => (false, rest)

/-- The characters of a number after its sign: digits, points, and `_` to group digits. -/
def isNumberChar (c : Char) : Bool :=
  c.isDigit || c == '.' || c == '_'

/-- The part of an unsigned number after its point. -/
def fraction (body : List Char) : List Char :=
  (body.dropWhile (· != '.')).drop 1

/-- The shape of an unsigned number: some digits, at most one point, and no `_` before the first
digit. Twenty-eight fractional digits fill the number, and then nothing may follow them. -/
def isBody (body : List Char) : Bool :=
  body.all isNumberChar && body.any Char.isDigit && body.count '.' ≤ 1 &&
    !(body.takeWhile (!·.isDigit)).contains '_' &&
    !(((fraction body).filter Char.isDigit).length == 28 && (fraction body).getLast? == some '_')

/-- Read a number without an exponent. Its scale is the number of fractional digits written. -/
def ofPlainChars? (cs : List Char) : Option Decimal :=
  let (negative, body) := takeSign cs
  if isBody body then
    ofParts? negative (Nat.ofDigitChars 10 (body.filter Char.isDigit) 0)
      ((fraction body).filter Char.isDigit).length
  else none

/-- Read the exponent of a number: digits with an optional sign. -/
def exponent? (cs : List Char) : Option Int :=
  let (negative, digits) := takeSign cs
  if digits.isEmpty || !digits.all Char.isDigit then none
  else
    let magnitude : Int := Nat.ofDigitChars 10 digits 0
    some (if negative then -magnitude else magnitude)

/-- The letter that announces an exponent. -/
def isExponentMark (c : Char) : Bool :=
  c == 'e' || c == 'E'

/-- Read a number without blanks around it. -/
def ofChars? (cs : List Char) : Option Decimal :=
  match cs.dropWhile (!isExponentMark ·) with
  | [] => ofPlainChars? cs
  | _ :: exponent => do
      let base ← ofPlainChars? (cs.takeWhile (!isExponentMark ·))
      base.timesTenPow? (← exponent? exponent)

/-- Read a number with blanks allowed around it. -/
def ofText? (text : String) : Option Decimal :=
  ofChars? (Text.trim text.toList)

end Tabular.Decimal
