import Tabular.Proofs.Decimal.ReadBack
import Tabular.Proofs.Layout.Shown

/-!
Which of the numbers in a column are read back from their fields. The column gives all its numbers
as many fractional digits as the most precise of them has, and so adds zeros to the others.
-/

namespace Tabular.NumberLayout

/-- Observing a number keeps to the places that a number can have. -/
theorem places_observe_le {layout : NumberLayout} (h : layout.observed.places ≤ 28)
    (number : Option Decimal) : (layout.observe number).observed.places ≤ 28 := by
  cases number with
  | none => exact h
  | some d => exact Nat.max_le.mpr ⟨h, d.scale_le⟩

theorem places_foldl_le {layout : NumberLayout} (h : layout.observed.places ≤ 28)
    (numbers : List (Option Decimal)) : (numbers.foldl observe layout).observed.places ≤ 28 := by
  induction numbers generalizing layout with
  | nil => exact h
  | cons number numbers ih => exact ih (places_observe_le h number)

/-- The layout of these numbers, all observed and then settled. -/
def learned (numbers : List (Option Decimal)) : NumberLayout :=
  (numbers.foldl observe empty).settle

theorem seen_learned {d : Decimal} {numbers : List (Option Decimal)} (h : some d ∈ numbers) :
    (learned numbers).Seen d :=
  Seen.settle (see_foldl_of_mem observe_comm observe_self h empty)

theorem isSettled_learned (numbers : List (Option Decimal)) : (learned numbers).IsSettled :=
  rfl

theorem places_learned_le (numbers : List (Option Decimal)) : (learned numbers).places ≤ 28 :=
  places_foldl_le (Nat.zero_le 28) numbers

/-- A field that has at most twenty-eight digits has few enough for every number. -/
theorem mantissa_lt_of_digits_le {layout : NumberLayout} {d : Decimal}
    (hSettled : layout.IsSettled) (hSeen : layout.Seen d)
    (hDigits : layout.wholeDigits + layout.places ≤ 28) :
    d.mantissa * 10 ^ (layout.places - d.scale) < Decimal.mantissaLimit := by
  obtain ⟨-, hWhole, hPlaces⟩ := (seen_iff layout d).mp hSeen
  rw [← hSettled.settled_eq] at hWhole hPlaces
  have hScale : d.scale ≤ layout.places := hPlaces
  have hQuotient : d.mantissa / 10 ^ d.scale < 10 ^ layout.wholeDigits := by
    have hPositive : 0 < layout.wholeDigits :=
      Nat.lt_of_lt_of_le (List.length_pos_iff.mpr d.wholeDigits_ne_nil) hWhole
    exact (Nat.length_toDigits_le_iff (by decide) hPositive).mp hWhole
  have hMantissa : d.mantissa < 10 ^ layout.wholeDigits * 10 ^ d.scale :=
    (Nat.div_lt_iff_lt_mul (Nat.pow_pos (by decide))).mp hQuotient
  calc d.mantissa * 10 ^ (layout.places - d.scale)
      < 10 ^ layout.wholeDigits * 10 ^ d.scale * 10 ^ (layout.places - d.scale) :=
        Nat.mul_lt_mul_of_pos_right hMantissa (Nat.pow_pos (by decide))
    _ = 10 ^ (layout.wholeDigits + layout.places) := by
        rw [Nat.mul_assoc, ← Nat.pow_add, Nat.add_sub_cancel' hScale, ← Nat.pow_add]
    _ ≤ 10 ^ 28 := Nat.pow_le_pow_right (by decide) hDigits
    _ < Decimal.mantissaLimit := by decide

/-- A number of a column is read back from its field, with its value and its sign, exactly if its
mantissa still fits with the zeros that are added. It always does where the digits of the field are
at most twenty-eight. -/
theorem read_back_iff_fits (numbers : List (Option Decimal)) (d : Decimal)
    (hMem : some d ∈ numbers) :
    (d.mantissa * 10 ^ ((learned numbers).places - d.scale) < Decimal.mantissaLimit →
      ∃ read, Decimal.parse ((learned numbers).format (some d)) = .ok read ∧
        read.value = d.value ∧ read.negative = d.negative ∧
          read.scale = (learned numbers).places) ∧
    (Decimal.mantissaLimit ≤ d.mantissa * 10 ^ ((learned numbers).places - d.scale) →
      Decimal.parse ((learned numbers).format (some d)) =
        failure (.invalidDecimal (String.ofList (d.charsTo (learned numbers).places)))) ∧
    ((learned numbers).wholeDigits + (learned numbers).places ≤ 28 →
      d.mantissa * 10 ^ ((learned numbers).places - d.scale) < Decimal.mantissaLimit) := by
  have hSettled := isSettled_learned numbers
  have hSeen := seen_learned hMem
  have hText : Text.trim ((learned numbers).format (some d)).toList =
      d.charsTo (learned numbers).places := by
    rw [toList_format]
    exact Text.trim_leftpad (fun _ => Decimal.isBlank_of_mem_charsTo) _
  have hScale : max d.scale (learned numbers).places = (learned numbers).places :=
    Nat.max_eq_right ((seen_iff _ d).mp hSeen).2.2
  refine ⟨fun hFits => ?_, Decimal.parse_of_le hText, mantissa_lt_of_digits_le hSettled hSeen⟩
  have hBound := places_learned_le numbers
  have hRead := Decimal.exists_read_of_lt hText (by rwa [hScale]) hFits
  rwa [hScale] at hRead

/-- The largest number is not read back where a tenth stands in its column: the zero that is added
to it makes it too long. -/
theorem largest_beside_tenth_is_refused :
    let largest : Decimal := ⟨false, 79228162514264337593543950335, 0, by decide, by decide⟩
    let numbers : List (Option Decimal) := [some largest, some ⟨false, 1, 1, by decide, by decide⟩]
    some largest ∈ numbers ∧
      (learned numbers).format (some largest) = "79228162514264337593543950335.0" ∧
        Decimal.parse ((learned numbers).format (some largest)) =
          failure (.invalidDecimal "79228162514264337593543950335.0") := by
  intro largest numbers
  have hMem : some largest ∈ numbers := List.mem_cons_self
  have hPlaces : (learned numbers).places = 1 := by decide +kernel
  have hText : String.ofList (largest.charsTo (learned numbers).places) =
      "79228162514264337593543950335.0" := by decide +kernel
  have hRefused := (read_back_iff_fits numbers largest hMem).2.1 (by rw [hPlaces]; decide)
  rw [hText] at hRefused
  exact ⟨hMem, by decide +kernel, hRefused⟩

end Tabular.NumberLayout
