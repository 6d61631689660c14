import Tabular.Proofs.Decimal.Spelling

/-!
Reading and printing keep the number that a text denotes, and its sign: what is read is what the
text denotes, and what is printed denotes what was read.
-/

namespace Tabular

namespace Numeral

section
variable {negative : Bool} {sign before after point : List Char}

/-- Digits around a point are one whole number, of which those behind it are decimal places. -/
theorem unsigned?_append (hGrouped : Spelling.IsGrouped before after)
    (hPoint : Spelling.PointText after point) :
    unsigned? (before ++ point) =
      some ((whole (before ++ after) : Rat) / 10 ^ after.countP Char.isDigit) := by
  have hNoPoint : ∀ c ∈ before, (c != '.') = true := by
    intro c hMem
    simpa using ne_of_mem_of_not_mem hMem hGrouped.point_not_mem
  have hFront : (before ++ point).takeWhile (· != '.') = before := by
    rw [List.takeWhile_append_of_pos hNoPoint]
    cases hPoint <;> simp
  have hBack : ((before ++ point).dropWhile (· != '.')).drop 1 = after :=
    Spelling.fraction_append hGrouped.point_not_mem hPoint
  obtain ⟨hBefore, hAfter⟩ := List.forall_mem_append.mp hGrouped.isDigit_or_eq
  have hValue : (whole (before ++ after) : Rat) / 10 ^ after.countP Char.isDigit =
      whole before + part after := by
    rw [whole_add_part, whole_eq, List.filter_append, List.countP_eq_length_filter]
  rw [unsigned?, hFront, hBack, isGrouped_iff.mpr hBefore, isGrouped_iff.mpr hAfter,
    hGrouped.any_isDigit hPoint, hValue]
  rfl

theorem signed?_append (hSign : Spelling.SignText negative sign)
    (hGrouped : Spelling.IsGrouped before after) (hPoint : Spelling.PointText after point) :
    signed? (sign ++ (before ++ point)) =
      some ((Spelling.signed negative (whole (before ++ after)) : Rat) /
        10 ^ after.countP Char.isDigit) := by
  have hStart : ∀ c ∈ (before ++ point).head?, Decimal.isNumberChar c = true := fun c hHead =>
    hGrouped.isNumberChar_of_mem hPoint c (List.mem_of_mem_head? hHead)
  simp only [signed?, Spelling.takeSign_append hSign hStart, unsigned?_append hGrouped hPoint,
    Option.map_some, Spelling.signed]
  cases negative with
  | true => simp [neg_div]
  | false => simp

theorem exponent?_append {digits : List Char} (hSign : Spelling.SignText negative sign)
    (hNe : digits ≠ []) (hDigits : ∀ c ∈ digits, c.isDigit = true) :
    exponent? (sign ++ digits) = some (Spelling.signed negative (whole digits)) := by
  have hStart : ∀ c ∈ digits.head?, Decimal.isNumberChar c = true := fun c hHead =>
    Decimal.isNumberChar_of_isDigit (hDigits c (List.mem_of_mem_head? hHead))
  simp only [exponent?, Spelling.takeSign_append hSign hStart]
  rw [List.isEmpty_eq_false_iff.mpr hNe, List.all_eq_true.mpr hDigits]
  rfl

end

theorem value?_of_not_mark {cs : List Char} (h : ∀ c ∈ cs, Decimal.isExponentMark c = false) :
    value? cs = signed? cs := by
  rw [value?, List.dropWhile_eq_nil_iff.mpr (by simpa using h)]

end Numeral

namespace Spelling

/-- The number that the parts denote, within the bounds or not. -/
def value (spelling : Spelling) : Rat :=
  (signed spelling.negative spelling.digits : Rat) * 10 ^ (spelling.exponent - spelling.places)

/-- A text denotes the number of the parts that it is spelled by. -/
theorem Spells.value?_eq {spelling : Spelling} {cs : List Char} (h : spelling.Spells cs) :
    Numeral.value? cs = some spelling.value := by
  have hValue : spelling.value =
      (signed spelling.negative spelling.digits : Rat) / 10 ^ spelling.places *
        10 ^ spelling.exponent := by
    rw [value, zpow_sub₀ (by norm_num), zpow_natCast]
    ring
  rw [hValue]
  obtain ⟨negative, before, after, power⟩ := spelling
  obtain ⟨hSign, hGrouped, hPoint, hExponent⟩ := h
  have hBase := Numeral.signed?_append hSign hGrouped hPoint
  have hNoMark := not_isExponentMark hSign hGrouped hPoint
  cases hExponent with
  | none =>
      rw [List.append_nil, Numeral.value?_of_not_mark hNoMark, hBase]
      simp [digits, places]
  | marked hMark hExponentSign hNe hDigits =>
      rw [Numeral.value?_append_mark hNoMark hMark, hBase,
        Numeral.exponent?_append hExponentSign hNe hDigits]
      rfl

/-- A text begins with a minus sign if this is the sign that it is spelled by. -/
theorem Spells.negative_iff {spelling : Spelling} {cs : List Char} (h : spelling.Spells cs) :
    spelling.negative = true ↔ cs.head? = some '-' := by
  obtain @⟨sign, point, exponent, hSign, hGrouped, hPoint, -⟩ := h
  have hNe : spelling.before ++ point ≠ [] := by
    intro hNil
    simpa [hNil] using hGrouped.any_isDigit hPoint
  have hStart : ∀ c ∈ (spelling.before ++ point ++ exponent).head?,
      Decimal.isNumberChar c = true := by
    rw [List.head?_append_of_ne_nil _ hNe]
    exact fun c hHead => hGrouped.isNumberChar_of_mem hPoint c (List.mem_of_mem_head? hHead)
  rw [← Decimal.takeSign_negative_iff, List.append_assoc, takeSign_append hSign hStart]

theorem signed_mul (negative : Bool) (n factor : Nat) :
    signed negative (n * factor) = signed negative n * factor := by
  cases negative with
  | true => simp [signed]
  | false => simp [signed]

/-- The value of what is read is that of the written digits, without rounding. -/
theorem value_of_read? {spelling : Spelling} {d : Decimal} (h : spelling.read? = some d) :
    d.value = spelling.value := by
  obtain ⟨-, hNegative, hMantissa, hScale⟩ := read?_eq_some_iff.mp h
  have hPower : (10 : Rat) ^ (spelling.exponent - spelling.places) =
      10 ^ (spelling.exponent - spelling.places).toNat /
        10 ^ (spelling.places - spelling.exponent).toNat := by
    rw [← zpow_natCast, ← zpow_natCast, ← zpow_sub₀ (by norm_num)]
    congr 1
    omega
  have hSigned : d.signedMantissa = signed spelling.negative spelling.digits *
      (10 ^ (spelling.exponent - spelling.places).toNat : Nat) := by
    rw [← signed_mul, ← hNegative, ← hMantissa]
    rfl
  rw [Decimal.value, value, hSigned, hScale, hPower]
  push_cast
  ring

end Spelling

namespace Decimal

/-- The text denotes the number, and begins with a minus sign if the number is negative. -/
def DenotedBy (d : Decimal) (cs : List Char) : Prop :=
  Numeral.value? cs = some d.value ∧ (d.negative = true ↔ cs.head? = some '-')

theorem DenotedBy.agree {d : Decimal} {xs ys : List Char} (hLeft : d.DenotedBy xs)
    (hRight : d.DenotedBy ys) : Numeral.Agree xs ys :=
  ⟨d.value, hLeft.1, hRight.1, hLeft.2.symm.trans hRight.2⟩

/-- A number is read as what its text denotes, and has the sign it is written with. -/
theorem denotedBy_of_ofChars? {cs : List Char} {d : Decimal} (h : ofChars? cs = some d) :
    d.DenotedBy cs := by
  obtain ⟨spelling, hSpells⟩ := Spelling.exists_spells_of_ofChars? h
  rw [hSpells.ofChars?_eq] at h
  obtain ⟨-, hNegative, -⟩ := Spelling.read?_eq_some_iff.mp h
  exact ⟨by rw [hSpells.value?_eq, Spelling.value_of_read? h],
    by rw [hNegative, hSpells.negative_iff]⟩

theorem ofDigitChars_fractionDigits (d : Decimal) :
    Nat.ofDigitChars 10 d.fractionDigits 0 = d.mantissa % Nat.pow 10 d.scale := by
  rw [fractionDigits]
  split
  · next hScale => simp [hScale, Nat.mod_one]
  · rw [List.leftpad, Numeral.ofDigitChars_append_zero, Nat.ofDigitChars_replicate_zero,
      Nat.ofDigitChars_ten_toDigits]
    simp

/-- The parts of a printed number. -/
def spelling (d : Decimal) (places : Nat) : Spelling :=
  ⟨d.negative, d.wholeDigits, d.paddedFraction places, 0⟩

theorem isDigit_of_mem_spelling {d : Decimal} {places : Nat} {c : Char}
    (h : c ∈ d.wholeDigits ++ d.paddedFraction places) : c.isDigit = true := by
  rcases List.mem_append.mp h with hWhole | hFraction
  · exact isDigit_of_mem_wholeDigits hWhole
  · exact isDigit_of_mem_paddedFraction hFraction

theorem signText_signChars (d : Decimal) : Spelling.SignText d.negative d.signChars := by
  rw [signChars]
  cases d.negative with
  | true => exact .minus
  | false => exact .none

/-- The digits of a printed number are not grouped. -/
theorem isGrouped_charsTo (d : Decimal) (places : Nat) :
    Spelling.IsGrouped d.wholeDigits (d.paddedFraction places) where
  isDigit_or_eq := fun _ hMem => Or.inl (isDigit_of_mem_spelling hMem)
  first := by
    obtain ⟨c, rest, hDigits⟩ := List.exists_cons_of_ne_nil d.wholeDigits_ne_nil
    have hMem : c ∈ d.wholeDigits := hDigits ▸ List.mem_cons_self
    exact ⟨c, by simp [hDigits], isDigit_of_mem_wholeDigits hMem⟩
  last := by
    intro _ hLast
    exact absurd (isDigit_of_mem_paddedFraction (List.mem_of_getLast? hLast)) (by decide)

/-- A printed number is spelled by its sign and its digits, without an exponent. -/
theorem spells_charsTo (d : Decimal) (places : Nat) :
    (d.spelling places).Spells (d.charsTo places) := by
  have hPoint : Spelling.PointText (d.paddedFraction places)
      (if max d.scale places = 0 then [] else '.' :: d.paddedFraction places) := by
    split
    · next hNone =>
      have hNil : d.paddedFraction places = [] :=
        List.length_eq_zero_iff.mp (by rw [length_paddedFraction, hNone])
      rw [hNil]
      exact .none
    · exact .point _
  rw [charsTo_eq, List.append_assoc, ← List.append_nil (d.signChars ++ _)]
  exact .mk d.signText_signChars (d.isGrouped_charsTo places) hPoint .none

theorem places_spelling (d : Decimal) (places : Nat) :
    (d.spelling places).places = max d.scale places := by
  rw [Spelling.places, ← length_paddedFraction]
  exact List.countP_eq_length.mpr fun _ => isDigit_of_mem_paddedFraction

/-- All digits of a printed number, read as one: each zero that is added makes the mantissa ten
times as large. -/
theorem digits_spelling (d : Decimal) (places : Nat) :
    (d.spelling places).digits = d.mantissa * 10 ^ (places - d.scale) := by
  have hWhole : Nat.ofDigitChars 10 d.wholeDigits 0 = d.mantissa / 10 ^ d.scale :=
    Nat.ofDigitChars_ten_toDigits
  have hSum : d.scale + (places - d.scale) = max d.scale places := by omega
  have hAll : (d.wholeDigits ++ d.paddedFraction places).filter Char.isDigit =
      d.wholeDigits ++ d.paddedFraction places :=
    List.filter_eq_self.mpr fun _ => isDigit_of_mem_spelling
  rw [Spelling.digits, Numeral.whole_eq, spelling, hAll, Numeral.ofDigitChars_append_zero, hWhole,
    length_paddedFraction, paddedFraction, Numeral.ofDigitChars_append_zero,
    ofDigitChars_fractionDigits, List.length_replicate, Nat.ofDigitChars_replicate_zero,
    Nat.pow_eq, Nat.mul_zero, Nat.add_zero, ← hSum, Nat.pow_add]
  calc 10 ^ d.scale * 10 ^ (places - d.scale) * (d.mantissa / 10 ^ d.scale) +
        10 ^ (places - d.scale) * (d.mantissa % 10 ^ d.scale)
      = 10 ^ (places - d.scale) *
          (10 ^ d.scale * (d.mantissa / 10 ^ d.scale) + d.mantissa % 10 ^ d.scale) := by ring
    _ = d.mantissa * 10 ^ (places - d.scale) := by rw [Nat.div_add_mod, Nat.mul_comm]

/-- Zeros that are added to a printed number do not change its value. -/
theorem value_spelling (d : Decimal) (places : Nat) : (d.spelling places).value = d.value := by
  have hSum : max d.scale places = d.scale + (places - d.scale) := by omega
  have hExponent : (d.spelling places).exponent = 0 := rfl
  have hSigned : Spelling.signed d.negative d.mantissa = d.signedMantissa := rfl
  have hNegative : (d.spelling places).negative = d.negative := rfl
  rw [Spelling.value, digits_spelling, places_spelling, hExponent, hNegative, Spelling.signed_mul,
    hSigned, value, zero_sub, zpow_neg, zpow_natCast, hSum, pow_add]
  push_cast
  field_simp

/-- A printed number denotes the number and has its sign, however many zeros are added to it. -/
theorem denotedBy_charsTo (d : Decimal) (places : Nat) : d.DenotedBy (d.charsTo places) := by
  have hSpells := d.spells_charsTo places
  exact ⟨by rw [hSpells.value?_eq, value_spelling], hSpells.negative_iff⟩

end Decimal

end Tabular
