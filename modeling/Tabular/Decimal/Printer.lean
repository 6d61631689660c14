import Tabular.Decimal.Basic

/-!
The text of a decimal number: its sign, at least one digit before the point, and exactly as many
after it as the number's scale.
-/

namespace Tabular.Decimal

/-- The digits before the point. -/
def wholeDigits (d : Decimal) : List Char :=
  Nat.toDigits 10 (d.mantissa / Nat.pow 10 d.scale)

/-- The digits after the point. -/
def fractionDigits (d : Decimal) : List Char :=
  if d.scale = 0 then []
  else (Nat.toDigits 10 (d.mantissa % Nat.pow 10 d.scale)).leftpad d.scale '0'

/-- The minus sign, which zero may carry too. -/
def signChars (d : Decimal) : List Char :=
  if d.negative then ['-'] else []

/-- The characters of the number's text. A number without fractional digits has no point. -/
def chars (d : Decimal) : List Char :=
  d.signChars ++ d.wholeDigits ++ (if d.scale = 0 then [] else '.' :: d.fractionDigits)

/-- The number's text. -/
def text (d : Decimal) : String :=
  String.ofList d.chars

/-- The text with zeros added until it has `places` fractional digits. No digit is ever dropped. -/
def charsTo (d : Decimal) (places : Nat) : List Char :=
  d.chars ++
    (if d.scale < places then
      (if d.scale = 0 then ['.'] else []) ++ List.replicate (places - d.scale) '0'
    else [])

@[simp] theorem toList_text (d : Decimal) : d.text.toList = d.chars := by
  simp [text]

theorem wholeDigits_ne_nil (d : Decimal) : d.wholeDigits ≠ [] :=
  Nat.toDigits_ne_nil

/-- The fraction has the number of digits that the scale names. -/
theorem length_fractionDigits (d : Decimal) : d.fractionDigits.length = d.scale := by
  unfold fractionDigits
  split
  · next h => simp [h]
  · next h =>
    have hPos : 0 < Nat.pow 10 d.scale := Nat.pow_pos (by decide)
    have hLe : (Nat.toDigits 10 (d.mantissa % Nat.pow 10 d.scale)).length ≤ d.scale :=
      (Nat.length_toDigits_le_iff (by decide) (Nat.pos_of_ne_zero h)).2 (Nat.mod_lt _ hPos)
    rw [List.length_leftpad]
    omega

end Tabular.Decimal
