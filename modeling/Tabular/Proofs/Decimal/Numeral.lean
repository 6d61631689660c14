import Mathlib
import Tabular.Decimal.Reader
import Tabular.Proofs.Decimal.Printed

/-!
The number that a text denotes in decimal notation. It is said digit by digit, without a bound on
the digits or on the exponent, so that it can be compared with what is read and with what is
printed.
-/

namespace Tabular

namespace Decimal

theorem isExponentMark_of_isDigit {c : Char} (h : c.isDigit = true) : isExponentMark c = false := by
  have hNoMark : c ≠ 'e' ∧ c ≠ 'E' := by
    constructor <;>
    · rintro rfl
      exact absurd h (by decide)
  simp [isExponentMark, hNoMark]

theorem isNumberChar_of_isDigit {c : Char} (h : c.isDigit = true) : isNumberChar c = true := by
  simp [isNumberChar, h]

/-- A text that begins with a character of a base has no sign. -/
theorem takeSign_of_isNumberChar {c : Char} (h : isNumberChar c = true) (rest : List Char) :
    takeSign (c :: rest) = (false, c :: rest) := by
  have hMinus : c ≠ '-' := by
    rintro rfl
    exact absurd h (by decide)
  have hPlus : c ≠ '+' := by
    rintro rfl
    exact absurd h (by decide)
  simp [takeSign, hMinus, hPlus]

theorem takeSign_of_isDigit {c : Char} (h : c.isDigit = true) (rest : List Char) :
    takeSign (c :: rest) = (false, c :: rest) :=
  takeSign_of_isNumberChar (isNumberChar_of_isDigit h) rest

/-- A text begins with a minus sign if it has a negative one. -/
theorem takeSign_negative_iff (cs : List Char) :
    (takeSign cs).1 = true ↔ cs.head? = some '-' := by
  unfold takeSign
  split
  · simp
  · simp
  · next hMinus _ =>
    cases cs with
    | nil => simp
    | cons c rest =>
        have hFirst : c ≠ '-' := by
          rintro rfl
          exact hMinus rest rfl
        simp [hFirst]

theorem point_not_mem_of_isDigit {cs : List Char} (h : ∀ c ∈ cs, c.isDigit = true) : '.' ∉ cs :=
  fun hMem => absurd (h '.' hMem) (by decide)

/-- The fraction is what stands behind the first point, if there is one. -/
theorem fraction_append {before after tail : List Char} (hBefore : '.' ∉ before)
    (hTail : tail = '.' :: after ∨ tail = [] ∧ after = []) : fraction (before ++ tail) = after := by
  have hNoPoint : ∀ c ∈ before, (c != '.') = true := by
    intro c hMem
    rw [bne_iff_ne]
    rintro rfl
    exact hBefore hMem
  rw [fraction, List.dropWhile_append_of_pos hNoPoint]
  rcases hTail with rfl | ⟨rfl, rfl⟩
  · simp
  · simp

end Decimal

namespace Numeral

/-- The number that a digit stands for. -/
def digit (c : Char) : Nat :=
  c.toNat - '0'.toNat

/-- Digits before a point: each makes those before it weigh ten times as much. -/
def whole (cs : List Char) : Nat :=
  cs.foldl (fun value c => if c.isDigit then 10 * value + digit c else value) 0

/-- Digits after a point: each, with those after it, weighs a tenth. -/
def part (cs : List Char) : Rat :=
  cs.foldr (fun c value => if c.isDigit then (digit c + value) / 10 else value) 0

/-- Digits, and `_` to group them. -/
def isGrouped (cs : List Char) : Bool :=
  cs.all fun c => c.isDigit || c == '_'

/-- Digits with at most one point among them. -/
def unsigned? (cs : List Char) : Option Rat :=
  let before := cs.takeWhile (· != '.')
  let after := (cs.dropWhile (· != '.')).drop 1
  if isGrouped before && isGrouped after && cs.any Char.isDigit then
    some (whole before + part after)
  else none

/-- A number without an exponent. -/
def signed? (cs : List Char) : Option Rat :=
  let (negative, body) := Decimal.takeSign cs
  (unsigned? body).map fun value => if negative then -value else value

/-- A whole number of digits, with a sign or without. -/
def exponent? (cs : List Char) : Option Int :=
  let (negative, digits) := Decimal.takeSign cs
  if !digits.isEmpty && digits.all Char.isDigit then
    some (if negative then -(whole digits : Int) else whole digits)
  else none

/-- The number that a text denotes, if it denotes one. An exponent is a power of ten to multiply
by. -/
def value? (cs : List Char) : Option Rat :=
  match cs.dropWhile (!Decimal.isExponentMark ·) with
  | [] => signed? cs
  | _ :: exponent => do
      let value ← signed? (cs.takeWhile (!Decimal.isExponentMark ·))
      let power ← exponent? exponent
      some (value * 10 ^ power)

example : value? "-1_2.50e1".toList = some (-125) := by
  decide +kernel

/-- Two texts denote the same number, and both have a minus sign or neither. -/
def Agree (xs ys : List Char) : Prop :=
  ∃ value, value? xs = some value ∧ value? ys = some value ∧
    (xs.head? = some '-' ↔ ys.head? = some '-')

/-- An exponent begins behind the first letter that can announce one. -/
theorem value?_append_mark {base : List Char}
    (hBase : ∀ c ∈ base, Decimal.isExponentMark c = false) {mark : Char}
    (hMark : Decimal.isExponentMark mark = true) (exponent : List Char) :
    value? (base ++ mark :: exponent) =
      (signed? base).bind fun value => (exponent? exponent).bind fun power =>
        some (value * 10 ^ power) := by
  have hNoMark : ∀ c ∈ base, (!Decimal.isExponentMark c) = true := by
    intro c hMem
    rw [hBase c hMem]
    rfl
  rw [value?, List.dropWhile_append_of_pos hNoMark, List.takeWhile_append_of_pos hNoMark,
    List.dropWhile_cons_of_neg (by simp [hMark]), List.takeWhile_cons_of_neg (by simp [hMark]),
    List.append_nil]
  rfl

theorem whole_eq (cs : List Char) : whole cs = Nat.ofDigitChars 10 (cs.filter Char.isDigit) 0 := by
  rw [whole, Nat.ofDigitChars_eq_foldl, List.foldl_filter]
  rfl

/-- Digits in front weigh more by a power of ten for each digit behind them. -/
theorem ofDigitChars_append_zero (xs ys : List Char) :
    Nat.ofDigitChars 10 (xs ++ ys) 0 =
      10 ^ ys.length * Nat.ofDigitChars 10 xs 0 + Nat.ofDigitChars 10 ys 0 := by
  rw [Nat.ofDigitChars_append]
  exact Nat.ofDigitChars_eq_ofDigitChars_zero

/-- The digits after a point are a whole number of as many decimal places. -/
theorem part_eq (cs : List Char) :
    part cs = (Nat.ofDigitChars 10 (cs.filter Char.isDigit) 0 : Rat) /
      10 ^ (cs.filter Char.isDigit).length := by
  induction cs with
  | nil => simp [part]
  | cons c cs ih =>
      rw [part, List.foldr_cons, ← part, ih]
      by_cases hDigit : c.isDigit = true
      · have hFront : Nat.ofDigitChars 10 (c :: cs.filter Char.isDigit) 0 =
            10 ^ (cs.filter Char.isDigit).length * digit c +
              Nat.ofDigitChars 10 (cs.filter Char.isDigit) 0 := by
          have hDigitValue : Nat.ofDigitChars 10 [c] 0 = digit c := by
            rw [Nat.ofDigitChars_cons, Nat.ofDigitChars_nil, Nat.mul_zero, Nat.zero_add, digit]
          rw [← List.singleton_append, ofDigitChars_append_zero, hDigitValue]
        rw [if_pos hDigit, List.filter_cons_of_pos hDigit, hFront, List.length_cons]
        push_cast
        field_simp
        ring
      · rw [if_neg hDigit, List.filter_cons_of_neg hDigit]

/-- The digits of a number are read as one whole number, of which those after the point are decimal
places. -/
theorem whole_add_part (before after : List Char) :
    whole before + part after =
      (Nat.ofDigitChars 10 (before.filter Char.isDigit ++ after.filter Char.isDigit) 0 : Rat) /
        10 ^ (after.filter Char.isDigit).length := by
  rw [whole_eq, part_eq, ofDigitChars_append_zero]
  push_cast
  field_simp

theorem isGrouped_iff {cs : List Char} :
    isGrouped cs = true ↔ ∀ c ∈ cs, c.isDigit = true ∨ c = '_' := by
  simp [isGrouped]

end Numeral

end Tabular
