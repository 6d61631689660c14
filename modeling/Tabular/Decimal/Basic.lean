/-!
Exact decimal numbers: a mantissa of 96 bits over a power of ten, with a sign of its own, so that
zero keeps a minus sign and `1.0` differs from `1.00` in the digits it shows though not in value.
-/

namespace Tabular

/-- The least number that 96 bits cannot hold. -/
abbrev Decimal.mantissaLimit : Nat := 79228162514264337593543950336

/-- `mantissa / 10 ^ scale`, negated if `negative`. The scale is the number of fractional digits
that the number shows. -/
structure Decimal where
  negative : Bool
  mantissa : Nat
  scale : Nat
  mantissa_lt : mantissa < Decimal.mantissaLimit
  scale_le : scale ≤ 28
  deriving DecidableEq, Repr

namespace Decimal

/-- The number with these parts, if they are within the bounds. -/
def ofParts? (negative : Bool) (mantissa scale : Nat) : Option Decimal :=
  if h : mantissa < mantissaLimit ∧ scale ≤ 28 then some ⟨negative, mantissa, scale, h.1, h.2⟩
  else none

theorem ofParts?_eq_some_iff {negative : Bool} {mantissa scale : Nat} {d : Decimal} :
    ofParts? negative mantissa scale = some d ↔
      d.negative = negative ∧ d.mantissa = mantissa ∧ d.scale = scale := by
  unfold ofParts?
  split
  · next h =>
    constructor
    · rintro ⟨⟩
      exact ⟨rfl, rfl, rfl⟩
    · rintro ⟨rfl, rfl, rfl⟩
      rfl
  · next h =>
    constructor
    · rintro ⟨⟩
    · rintro ⟨rfl, rfl, rfl⟩
      exact absurd ⟨d.mantissa_lt, d.scale_le⟩ h

/-- The mantissa with its sign. Zero has none. -/
def signedMantissa (d : Decimal) : Int :=
  if d.negative then -d.mantissa else d.mantissa

/-- The number times a power of ten, exactly. Its fractional digits are used up first, and what the
power demands beyond them is put behind the point as zeros of a whole number. -/
def timesTenPow? (d : Decimal) (exponent : Int) : Option Decimal :=
  if exponent ≤ d.scale then ofParts? d.negative d.mantissa (d.scale - exponent).toNat
  else if exponent ≤ 28 then
    ofParts? d.negative (d.mantissa * Nat.pow 10 (exponent - d.scale).toNat) 0
  else none

/-- The two numbers have the same value: zero is zero whatever its sign, and zeros at the end of
a fraction do not matter. -/
def sameValue (d e : Decimal) : Bool :=
  d.signedMantissa * Int.pow 10 e.scale == e.signedMantissa * Int.pow 10 d.scale

/-- The number as a fraction. -/
def value (d : Decimal) : Rat :=
  (d.signedMantissa : Rat) / (10 : Rat) ^ d.scale

theorem ten_pow_ne_zero (n : Nat) : (10 : Rat) ^ n ≠ 0 := by
  have hPos : (0 : Rat) < 10 ^ n := Rat.pow_pos (by decide)
  intro h
  rw [h] at hPos
  exact absurd hPos (by decide)

/-- Comparing crosswise compares the fractions. -/
theorem sameValue_iff (d e : Decimal) : d.sameValue e = true ↔ d.value = e.value := by
  have hd := ten_pow_ne_zero d.scale
  have he := ten_pow_ne_zero e.scale
  have hCross : d.value = e.value ↔
      (d.signedMantissa : Rat) * 10 ^ e.scale = e.signedMantissa * 10 ^ d.scale := by
    unfold value
    constructor
    · intro h
      grind
    · intro h
      grind
  have hPow (n : Nat) : ((Int.pow 10 n : Int) : Rat) = 10 ^ n := Rat.intCast_pow 10 n
  rw [hCross, sameValue, beq_iff_eq, ← Rat.intCast_inj, Rat.intCast_mul, Rat.intCast_mul, hPow, hPow]

end Decimal

end Tabular
