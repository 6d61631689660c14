import Mathlib
import Tabular.Proofs.Layout.ReadBack

/-!
Numbers that are aligned on their decimal point. The width of the field follows from the mantissas
and the scales of the numbers; each number is then printed by itself, and fills the field so that
its point and its units stand where those of all other numbers stand.
-/

namespace Tabular

namespace Decimal

/-- The place of the first digit of the mantissa: 0 for units, 2 for hundreds, -2 for hundredths. -/
def leadingPlace (d : Decimal) : Int :=
  (Nat.log 10 d.mantissa : Int) - d.scale

theorem length_toDigits (n : Nat) : (Nat.toDigits 10 n).length = Nat.log 10 n + 1 := by
  have hPos : 0 < (Nat.toDigits 10 n).length := Nat.length_toDigits_pos
  have hUpper : (Nat.toDigits 10 n).length ≤ Nat.log 10 n + 1 :=
    (Nat.length_toDigits_le_iff (by decide) (Nat.succ_pos _)).mpr
      (Nat.lt_pow_succ_log_self (by decide) n)
  have hLower : Nat.log 10 n < (Nat.toDigits 10 n).length :=
    Nat.log_lt_of_lt_pow' (by omega)
      ((Nat.length_toDigits_le_iff (by decide) hPos).mp (Nat.le_refl _))
  omega

/-- The number of digits before the point follows from the mantissa and the scale. -/
theorem length_wholeDigits (d : Decimal) :
    d.wholeDigits.length = d.leadingPlace.toNat + 1 := by
  rw [wholeDigits, length_toDigits, Nat.pow_eq, Nat.log_div_base_pow, leadingPlace]
  omega

/-- The digit of the units. -/
def unitDigit (d : Decimal) : Char :=
  Nat.digitChar (d.mantissa / 10 ^ d.scale % 10)

/-- The last digit before the point is that of the units. -/
theorem exists_wholeDigits_eq (d : Decimal) : ∃ front, d.wholeDigits = front ++ [d.unitDigit] := by
  rw [wholeDigits, Nat.pow_eq, unitDigit]
  by_cases hSmall : d.mantissa / 10 ^ d.scale < 10
  · exact ⟨[], by rw [Nat.toDigits_of_lt_base hSmall, Nat.mod_eq_of_lt hSmall, List.nil_append]⟩
  · exact ⟨_, Nat.toDigits_of_base_le (by decide) (Nat.le_of_not_lt hSmall)⟩

theorem point_not_mem_signChars (d : Decimal) : '.' ∉ d.signChars := by
  intro hMem
  rw [signChars] at hMem
  split at hMem
  · exact absurd (List.mem_singleton.mp hMem) (by decide)
  · cases hMem

theorem head?_chars_iff (d : Decimal) : d.chars.head? = some '-' ↔ d.negative = true := by
  rw [← charsTo_zero, (d.denotedBy_charsTo 0).2]

end Decimal

namespace Extent

theorem join_least_ofDecimal (d : Decimal) : (ofDecimal d).join least = ofDecimal d := by
  simp [join, least, ofDecimal, d.length_wholeDigits]

end Extent

namespace NumberLayout

/-- What numbers demand together, worked out from their signs, mantissas and scales. None of them is
printed for it. -/
def demanded (numbers : List (Option Decimal)) : Extent where
  negative := (numbers.filterMap id).any Decimal.negative
  wholeDigits := (((numbers.filterMap id).map Decimal.leadingPlace).foldr max 0).toNat + 1
  places := ((numbers.filterMap id).map Decimal.scale).foldr max 0

theorem demanded_cons_some (d : Decimal) (numbers : List (Option Decimal)) :
    demanded (some d :: numbers) = (Extent.ofDecimal d).join (demanded numbers) := by
  simp only [demanded, Extent.ofDecimal, Extent.join, d.length_wholeDigits, List.filterMap_cons,
    id_eq, List.any_cons, List.map_cons, List.foldr_cons, Extent.mk.injEq, true_and, and_true]
  omega

/-- Observing numbers is adding what they demand. -/
theorem observed_foldl {layout : NumberLayout} (h : layout.observed.join .least = layout.observed)
    (numbers : List (Option Decimal)) :
    (numbers.foldl observe layout).observed = layout.observed.join (demanded numbers) := by
  induction numbers generalizing layout with
  | nil => exact h.symm
  | cons number numbers ih =>
      cases number with
      | none => exact ih h
      | some d =>
          have hNext : (layout.observe (some d)).observed =
              layout.observed.join (Extent.ofDecimal d) := rfl
          rw [List.foldl_cons, ih, demanded_cons_some, hNext, Extent.join_assoc]
          rw [hNext, Extent.join_assoc, Extent.join_least_ofDecimal]

/-- The layout of numbers is settled for what they demand. -/
theorem settled_learned (numbers : List (Option Decimal)) :
    (learned numbers).settled = demanded numbers := by
  have hFold : (numbers.foldl observe empty).observed = Extent.least.join (demanded numbers) :=
    observed_foldl rfl numbers
  rw [learned, settle_settled, hFold]
  simp [Extent.join, Extent.least, demanded]

/-- Where the units of a number stand in the field: in front of the point, or at its end if there is
no point. -/
def unitsOffset (layout : NumberLayout) : Nat :=
  layout.width - layout.places - (if 0 < layout.places then 2 else 1)

/-- The number fills the field. In front of its own text are only spaces and behind it only what
brings it to the places of the field, so that point and units stand at offsets which the field alone
decides. -/
structure Aligned (layout : NumberLayout) (d : Decimal) (field : List Char) : Prop where
  length : field.length = layout.width
  shown : ∃ blanks zeros, d.scale + zeros = layout.places ∧
    field = List.replicate blanks ' ' ++ d.text.toList ++
      (if 0 < layout.places ∧ d.scale = 0 then ['.'] else []) ++ List.replicate zeros '0'
  minus : d.text.toList.head? = some '-' ↔ d.negative = true
  point : ∀ index, field[index]? = some '.' ↔
    0 < layout.places ∧ index + layout.places + 1 = layout.width
  units : field[layout.unitsOffset]? = some d.unitDigit
  fraction : ∀ c ∈ field.drop (layout.width - layout.places), c.isDigit = true

/-- Where the point of a number stands in a field that has places behind it. -/
def pointOffset (layout : NumberLayout) : Nat :=
  layout.width - layout.places - 1

theorem Aligned.getElem?_pointOffset {layout : NumberLayout} {d : Decimal} {field : List Char}
    (h : layout.Aligned d field) (hPlaces : 0 < layout.places) :
    field[layout.pointOffset]? = some '.' := by
  refine (h.point _).mpr ⟨hPlaces, ?_⟩
  have hWidth : layout.places + 1 ≤ layout.width := by
    rw [places] at hPlaces
    rw [places, width, Extent.width, if_pos hPlaces]
    omega
  rw [pointOffset]
  omega

/-- What is added to the text of a number is a point, if it has none, and zeros. A number that has
more places than the layout is left as it is. -/
theorem chars_eq_text (layout : NumberLayout) (d : Decimal) :
    layout.chars (some d) =
      List.replicate (layout.width - (d.charsTo layout.places).length) ' ' ++ d.text.toList ++
        (if 0 < layout.places ∧ d.scale = 0 then ['.'] else []) ++
          List.replicate (layout.places - d.scale) '0' := by
  rw [chars, List.leftpad, Decimal.charsTo, Decimal.toList_text]
  by_cases hMore : d.scale < layout.places
  · have hPos : 0 < layout.places := by omega
    simp [hMore, hPos]
  · have hNoPoint : ¬ (0 < layout.places ∧ d.scale = 0) := by omega
    have hNoZeros : layout.places - d.scale = 0 := by omega
    rw [if_neg hNoPoint, if_neg hMore, hNoZeros]
    simp

theorem exists_chars_eq_text {layout : NumberLayout} {d : Decimal} (h : d.scale ≤ layout.places) :
    ∃ blanks zeros, d.scale + zeros = layout.places ∧
      layout.chars (some d) = List.replicate blanks ' ' ++ d.text.toList ++
        (if 0 < layout.places ∧ d.scale = 0 then ['.'] else []) ++ List.replicate zeros '0' :=
  ⟨_, _, Nat.add_sub_cancel' h, layout.chars_eq_text d⟩

/-- Sign and digits up to the units hold no point; behind the units there are a point and as many
digits as the field has places, or nothing if it has none. -/
theorem exists_chars_eq_parts {layout : NumberLayout} {d : Decimal} (h : d.scale ≤ layout.places) :
    ∃ front digits, '.' ∉ front ++ [d.unitDigit] ∧ digits.length = layout.places ∧
      (∀ c ∈ digits, c.isDigit = true) ∧
        layout.chars (some d) = front ++ [d.unitDigit] ++
          (if 0 < layout.places then '.' :: digits else []) := by
  obtain ⟨whole, hWhole⟩ := d.exists_wholeDigits_eq
  have hNoPoint : '.' ∉ whole ++ [d.unitDigit] :=
    hWhole ▸ Decimal.point_not_mem_of_isDigit fun _ => Decimal.isDigit_of_mem_wholeDigits
  refine ⟨List.replicate (layout.width - (d.charsTo layout.places).length) ' ' ++
    (d.signChars ++ whole), d.paddedFraction layout.places, ?_, ?_,
    fun _ => Decimal.isDigit_of_mem_paddedFraction, ?_⟩
  · rw [List.append_assoc, List.append_assoc, List.mem_append, List.mem_append]
    rintro (hBlank | hSign | hDigit)
    · exact absurd (List.mem_replicate.mp hBlank).2 (by decide)
    · exact d.point_not_mem_signChars hSign
    · exact hNoPoint hDigit
  · rw [Decimal.length_paddedFraction, Nat.max_eq_right h]
  · rw [chars, List.leftpad, Decimal.charsTo_eq, Nat.max_eq_right h, hWhole]
    by_cases hPlaces : layout.places = 0
    · simp [hPlaces]
    · simp [hPlaces, Nat.pos_of_ne_zero hPlaces]

theorem getElem?_eq_point_iff {front digits : List Char} (hFront : '.' ∉ front)
    (hDigits : '.' ∉ digits) (index : Nat) :
    (front ++ '.' :: digits)[index]? = some '.' ↔ index = front.length := by
  rw [List.getElem?_append]
  split
  · next hIndex =>
    have hNone : front[index]? ≠ some '.' := fun hAt => hFront (List.mem_of_getElem? hAt)
    exact iff_of_false hNone (by omega)
  · next hIndex =>
    rw [List.getElem?_cons]
    split
    · next hZero => exact iff_of_true rfl (by omega)
    · next hBehind =>
      have hNone : digits[index - front.length - 1]? ≠ some '.' :=
        fun hAt => hDigits (List.mem_of_getElem? hAt)
      exact iff_of_false hNone (by omega)

section
variable {layout : NumberLayout} {front digits : List Char} {unit : Char}

/-- A field with as many digits behind its point as the layout has places. -/
theorem offsets_with_point (hPos : 0 < layout.places) (hNoPoint : '.' ∉ front ++ [unit])
    (hPlaces : digits.length = layout.places) (hDigits : ∀ c ∈ digits, c.isDigit = true)
    (hLength : (front ++ [unit] ++ '.' :: digits).length = layout.width) :
    (∀ index, (front ++ [unit] ++ '.' :: digits)[index]? = some '.' ↔
      0 < layout.places ∧ index + layout.places + 1 = layout.width) ∧
    (front ++ [unit] ++ '.' :: digits)[layout.unitsOffset]? = some unit ∧
    ∀ c ∈ (front ++ [unit] ++ '.' :: digits).drop (layout.width - layout.places),
      c.isDigit = true := by
  have hWidth : front.length + 1 + 1 + layout.places = layout.width := by
    rw [← hLength, ← hPlaces]
    simp only [List.length_append, List.length_cons, List.length_nil]
    omega
  refine ⟨fun index => ?_, ?_, ?_⟩
  · rw [getElem?_eq_point_iff hNoPoint (Decimal.point_not_mem_of_isDigit hDigits),
      List.length_append, List.length_singleton]
    omega
  · have hUnits : layout.unitsOffset = front.length := by
      rw [unitsOffset, if_pos hPos]
      omega
    simp [hUnits]
  · have hDrop : layout.width - layout.places = (front ++ [unit] ++ ['.']).length := by
      simp only [List.length_append, List.length_singleton]
      omega
    rw [hDrop, List.append_cons (front ++ [unit]) '.' digits, List.drop_left]
    exact hDigits

/-- A field of a layout without places ends with the units. -/
theorem offsets_without_point (hNone : layout.places = 0) (hNoPoint : '.' ∉ front ++ [unit])
    (hLength : (front ++ [unit]).length = layout.width) :
    (∀ index, (front ++ [unit])[index]? = some '.' ↔
      0 < layout.places ∧ index + layout.places + 1 = layout.width) ∧
    (front ++ [unit])[layout.unitsOffset]? = some unit ∧
    ∀ c ∈ (front ++ [unit]).drop (layout.width - layout.places), c.isDigit = true := by
  have hWidth : front.length + 1 = layout.width := by simpa using hLength
  refine ⟨fun index => ?_, ?_, ?_⟩
  · exact iff_of_false (fun hAt => hNoPoint (List.mem_of_getElem? hAt)) fun h => by omega
  · have hUnits : layout.unitsOffset = front.length := by
      rw [unitsOffset, hNone, if_neg (Nat.lt_irrefl 0)]
      omega
    simp [hUnits]
  · rw [hNone, Nat.sub_zero, ← hLength, List.drop_length]
    exact fun c hMem => absurd hMem List.not_mem_nil

end

/-- A settled layout aligns every number that it has seen. -/
theorem aligned_of_seen {layout : NumberLayout} {d : Decimal} (hSettled : layout.IsSettled)
    (hSeen : layout.Seen d) : layout.Aligned d (layout.chars (some d)) := by
  have hScale : d.scale ≤ layout.places := by
    have hPlaces := ((seen_iff layout d).mp hSeen).2.2
    rwa [← hSettled.settled_eq] at hPlaces
  have hLength := length_chars_of_seen hSettled hSeen
  have hText := exists_chars_eq_text hScale
  have hMinus : d.text.toList.head? = some '-' ↔ d.negative = true := by
    rw [Decimal.toList_text, d.head?_chars_iff]
  obtain ⟨front, digits, hNoPoint, hPlaces, hDigits, hChars⟩ := exists_chars_eq_parts hScale
  rw [hChars] at hLength hText ⊢
  by_cases hPos : 0 < layout.places
  · rw [if_pos hPos] at hLength hText ⊢
    obtain ⟨hPoint, hUnits, hFraction⟩ :=
      offsets_with_point hPos hNoPoint hPlaces hDigits hLength
    exact ⟨hLength, hText, hMinus, hPoint, hUnits, hFraction⟩
  · rw [if_neg hPos, List.append_nil] at hLength hText ⊢
    obtain ⟨hPoint, hUnits, hFraction⟩ :=
      offsets_without_point (Nat.eq_zero_of_not_pos hPos) hNoPoint hLength
    exact ⟨hLength, hText, hMinus, hPoint, hUnits, hFraction⟩

/-- Numbers are aligned on their decimal point, in a field of the width that their signs, mantissas
and scales demand. An absent number leaves the field blank. -/
theorem numbers_are_aligned (numbers : List (Option Decimal)) :
    (learned numbers).settled = demanded numbers ∧
      (learned numbers).format none = Text.spaces (learned numbers).width ∧
        ∀ d, some d ∈ numbers →
          (learned numbers).Aligned d ((learned numbers).format (some d)).toList := by
  refine ⟨settled_learned numbers, rfl, fun d hMem => ?_⟩
  rw [toList_format]
  exact aligned_of_seen (isSettled_learned numbers) (seen_learned hMem)

/-- A zero with a minus sign, an absent number and one without a fraction. -/
theorem negative_zero_is_aligned :
    let zero : Decimal := ⟨true, 0, 2, by decide, by decide⟩
    let numbers : List (Option Decimal) :=
      [some zero, none, some ⟨false, 123, 0, by decide, by decide⟩]
    some zero ∈ numbers ∧
      numbers.map (learned numbers).format = ["  -0.00", "       ", " 123.00"] ∧
        (learned numbers).Aligned zero ((learned numbers).format (some zero)).toList := by
  intro zero numbers
  have hMem : some zero ∈ numbers := List.mem_cons_self
  exact ⟨hMem, by decide +kernel, (numbers_are_aligned numbers).2.2 zero hMem⟩

end NumberLayout

end Tabular
