import Tabular.Decimal.Printer
import Tabular.Proofs.Text.Words

/-!
The characters of a printed number: a sign, digits, and a point with digits after it. However many
zeros are added, the digits of the number stay as they are.
-/

namespace Tabular.Decimal

theorem isDigit_of_mem_wholeDigits {d : Decimal} {c : Char} (h : c ∈ d.wholeDigits) :
    c.isDigit = true :=
  Nat.isDigit_of_mem_toDigits (by decide) (by decide) h

theorem isDigit_of_mem_fractionDigits {d : Decimal} {c : Char} (h : c ∈ d.fractionDigits) :
    c.isDigit = true := by
  rw [fractionDigits] at h
  split at h
  · cases h
  · rw [List.leftpad, List.mem_append, List.mem_replicate] at h
    rcases h with ⟨-, rfl⟩ | h
    · decide
    · exact Nat.isDigit_of_mem_toDigits (by decide) (by decide) h

/-- The digits after the point once the number has at least `places` of them. -/
def paddedFraction (d : Decimal) (places : Nat) : List Char :=
  d.fractionDigits ++ List.replicate (places - d.scale) '0'

theorem length_paddedFraction (d : Decimal) (places : Nat) :
    (d.paddedFraction places).length = max d.scale places := by
  rw [paddedFraction, List.length_append, length_fractionDigits, List.length_replicate]
  omega

theorem isDigit_of_mem_paddedFraction {d : Decimal} {places : Nat} {c : Char}
    (h : c ∈ d.paddedFraction places) : c.isDigit = true := by
  rcases List.mem_append.mp h with h | h
  · exact isDigit_of_mem_fractionDigits h
  · rw [List.mem_replicate.mp h |>.2]
    decide

/-- Sign, whole digits and, if there are any, a point and the digits after it. -/
theorem charsTo_eq (d : Decimal) (places : Nat) :
    d.charsTo places = d.signChars ++ d.wholeDigits ++
      (if max d.scale places = 0 then [] else '.' :: d.paddedFraction places) := by
  by_cases hScale : d.scale = 0
  · have hNone : d.fractionDigits = [] := by
      rw [← List.length_eq_zero_iff, length_fractionDigits, hScale]
    by_cases hPlaces : places = 0
    · simp [charsTo, chars, hScale, hPlaces]
    · simp [charsTo, chars, paddedFraction, hScale, hPlaces, hNone, Nat.pos_of_ne_zero]
  · have hMax : ¬ max d.scale places = 0 := by omega
    by_cases hMore : d.scale < places
    · simp [charsTo, chars, paddedFraction, hScale, hMax, hMore]
    · have hZeros : places - d.scale = 0 := by omega
      simp [charsTo, chars, paddedFraction, hScale, hMax, hMore, hZeros]

theorem length_signChars (d : Decimal) :
    d.signChars.length = if d.negative then 1 else 0 := by
  cases h : d.negative <;> simp [signChars, h]

theorem length_charsTo (d : Decimal) (places : Nat) :
    (d.charsTo places).length =
      (if d.negative then 1 else 0) + d.wholeDigits.length +
        (if 0 < max d.scale places then 1 else 0) + max d.scale places := by
  rw [charsTo_eq, List.length_append, List.length_append, length_signChars]
  by_cases hNone : max d.scale places = 0
  · simp [hNone]
  · rw [if_neg hNone, if_pos (Nat.pos_of_ne_zero hNone), List.length_cons, length_paddedFraction]
    omega

/-- A printed number holds digits, a minus sign and a point. -/
theorem mem_charsTo {d : Decimal} {places : Nat} {c : Char} (h : c ∈ d.charsTo places) :
    c.isDigit = true ∨ c = '-' ∨ c = '.' := by
  rw [charsTo_eq, List.mem_append, List.mem_append] at h
  rcases h with (hSign | hWhole) | hFraction
  · rw [signChars] at hSign
    split at hSign
    · exact .inr (.inl (List.mem_singleton.mp hSign))
    · cases hSign
  · exact .inl (isDigit_of_mem_wholeDigits hWhole)
  · split at hFraction
    · cases hFraction
    · rcases List.mem_cons.mp hFraction with hPoint | hDigit
      · exact .inr (.inr hPoint)
      · exact .inl (isDigit_of_mem_paddedFraction hDigit)

theorem isPlain_of_mem_charsTo {d : Decimal} {places : Nat} {c : Char}
    (h : c ∈ d.charsTo places) : Text.isPlain c = true := by
  rcases mem_charsTo h with hDigit | rfl | rfl
  · exact Text.isPlain_of_isDigit hDigit
  · decide
  · decide

/-- A printed number is one word. -/
theorem isBlank_of_mem_charsTo {d : Decimal} {places : Nat} {c : Char}
    (h : c ∈ d.charsTo places) : Text.isBlank c = false := by
  rcases mem_charsTo h with hDigit | rfl | rfl
  · exact Text.isBlank_of_isDigit hDigit
  · decide
  · decide

/-- The text of a number is printed without added zeros. -/
theorem charsTo_zero (d : Decimal) : d.charsTo 0 = d.chars := by
  simp [charsTo]

theorem charsTo_ne_nil (d : Decimal) (places : Nat) : d.charsTo places ≠ [] := by
  simp [charsTo_eq, d.wholeDigits_ne_nil]

theorem chars_ne_nil (d : Decimal) : d.chars ≠ [] :=
  d.charsTo_zero ▸ d.charsTo_ne_nil 0

theorem mem_chars {d : Decimal} {c : Char} (h : c ∈ d.chars) :
    c.isDigit = true ∨ c = '-' ∨ c = '.' :=
  mem_charsTo (d.charsTo_zero.symm ▸ h)

theorem isBlank_of_mem_chars {d : Decimal} {c : Char} (h : c ∈ d.chars) :
    Text.isBlank c = false :=
  isBlank_of_mem_charsTo (d.charsTo_zero.symm ▸ h)

end Tabular.Decimal
