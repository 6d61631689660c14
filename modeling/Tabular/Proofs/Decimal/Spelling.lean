import Mathlib
import Tabular.Proofs.Decimal.Numeral

/-!
How decimal numbers are written. A text is taken apart into a sign, the digits of a base in front of
and behind its point, and an exponent. Every text that is read as a number can be taken apart so, and
what is read follows from the parts.
-/

namespace Tabular

/-- The parts of a written number. The exponent is 0 if none is written. -/
structure Spelling where
  negative : Bool
  before : List Char
  after : List Char
  exponent : Int

namespace Decimal

/-- A power of ten uses up the places of a number; what it demands beyond them is added as zeros. -/
theorem timesTenPow?_eq_some_iff {base d : Decimal} {power : Int} :
    base.timesTenPow? power = some d ↔
      power ≤ 28 ∧ d.negative = base.negative ∧
        d.mantissa = base.mantissa * 10 ^ (power - base.scale).toNat ∧
          d.scale = (base.scale - power).toNat := by
  have hBound := base.scale_le
  rw [timesTenPow?]
  split
  · next hLe =>
    have hZero : (power - base.scale).toNat = 0 := by omega
    rw [ofParts?_eq_some_iff, hZero, Nat.pow_zero, Nat.mul_one]
    exact (and_iff_right (by omega)).symm
  · next hLt =>
    have hZero : (base.scale - power).toNat = 0 := by omega
    split
    · next hPower =>
      rw [ofParts?_eq_some_iff, hZero, Nat.pow_eq]
      exact (and_iff_right hPower).symm
    · next hPower => exact iff_of_false (by simp) fun h => hPower h.1

theorem timesTenPow?_zero (d : Decimal) : d.timesTenPow? 0 = some d :=
  timesTenPow?_eq_some_iff.mpr ⟨by decide, rfl, by simp, by simp⟩

/-- A base is read by itself, and then the exponent behind the letter that announces it. -/
theorem ofChars?_append_mark {base : List Char} (hBase : ∀ c ∈ base, isExponentMark c = false)
    {mark : Char} (hMark : isExponentMark mark = true) (exponent : List Char) :
    ofChars? (base ++ mark :: exponent) =
      (ofPlainChars? base).bind fun d => (exponent? exponent).bind d.timesTenPow? := by
  have hNoMark : ∀ c ∈ base, (!isExponentMark c) = true := by simpa using hBase
  rw [ofChars?, List.dropWhile_append_of_pos hNoMark, List.takeWhile_append_of_pos hNoMark,
    List.dropWhile_cons_of_neg (by simp [hMark]), List.takeWhile_cons_of_neg (by simp [hMark]),
    List.append_nil]
  rfl

theorem ofChars?_of_not_mark {cs : List Char} (h : ∀ c ∈ cs, isExponentMark c = false) :
    ofChars? cs = ofPlainChars? cs := by
  rw [ofChars?, List.dropWhile_eq_nil_iff.mpr (by simpa using h)]

end Decimal

namespace Spelling

/-- All digits of the base, read as one whole number. -/
def digits (spelling : Spelling) : Nat :=
  Numeral.whole (spelling.before ++ spelling.after)

/-- The number of digits that are written behind the point. -/
def places (spelling : Spelling) : Nat :=
  spelling.after.countP Char.isDigit

/-- A whole number with its sign. -/
def signed (negative : Bool) (n : Nat) : Int :=
  if negative then -n else n

/-- What is written for a sign. -/
inductive SignText : Bool → List Char → Prop where
  | minus : SignText true ['-']
  | plus : SignText false ['+']
  | none : SignText false []

/-- What is written behind the whole digits: a point and the digits after it, or nothing. -/
inductive PointText : List Char → List Char → Prop where
  | point (after : List Char) : PointText after ('.' :: after)
  | none : PointText [] []

/-- What is written behind the base: a letter and a whole number, or nothing. -/
inductive ExponentText : Int → List Char → Prop where
  | marked {mark : Char} {negative : Bool} {sign digits : List Char}
      (hMark : Decimal.isExponentMark mark = true) (hSign : SignText negative sign)
      (hNe : digits ≠ []) (hDigits : ∀ c ∈ digits, c.isDigit = true) :
      ExponentText (signed negative (Numeral.whole digits)) (mark :: (sign ++ digits))
  | none : ExponentText 0 []

/-- Digits, and `_` to group them, but not in front of the first digit; and behind as many digits of
a fraction as a number can have, none follows either. -/
structure IsGrouped (before after : List Char) : Prop where
  isDigit_or_eq : ∀ c ∈ before ++ after, c.isDigit = true ∨ c = '_'
  first : ∃ c ∈ (before ++ after).head?, c.isDigit = true
  last : after.countP Char.isDigit = 28 → after.getLast? ≠ some '_'

/-- The text is written so. -/
inductive Spells (spelling : Spelling) : List Char → Prop where
  | mk {sign point exponent : List Char} (hSign : SignText spelling.negative sign)
      (hGrouped : IsGrouped spelling.before spelling.after)
      (hPoint : PointText spelling.after point)
      (hExponent : ExponentText spelling.exponent exponent) :
      Spells spelling (sign ++ (spelling.before ++ point) ++ exponent)

/-- The number that the parts make: the digits of the base with its places, times a power of ten. -/
def read? (spelling : Spelling) : Option Decimal := do
  let base ← Decimal.ofParts? spelling.negative spelling.digits spelling.places
  base.timesTenPow? spelling.exponent

theorem read?_of_exponent_eq_zero {spelling : Spelling} (h : spelling.exponent = 0) :
    spelling.read? =
      Decimal.ofParts? spelling.negative spelling.digits spelling.places := by
  simp only [read?, h, Decimal.timesTenPow?_zero, Option.bind_eq_bind, Option.bind_fun_some]

/-- The number is within the bounds: as a base by itself, in its exponent, in the places that are left
and in its digits with the zeros that are added to them. -/
structure Fits (spelling : Spelling) : Prop where
  places : spelling.places ≤ 28
  exponent : spelling.exponent ≤ 28
  scale : spelling.places - spelling.exponent ≤ 28
  mantissa : spelling.digits * 10 ^ (spelling.exponent - spelling.places).toNat < 2 ^ 96

theorem read?_eq_some_iff {spelling : Spelling} {d : Decimal} :
    spelling.read? = some d ↔
      spelling.Fits ∧ d.negative = spelling.negative ∧
        d.mantissa = spelling.digits * 10 ^ (spelling.exponent - spelling.places).toNat ∧
          d.scale = (spelling.places - spelling.exponent).toNat := by
  constructor
  · intro h
    obtain ⟨base, hBase, hTimes⟩ := Option.bind_eq_some_iff.mp h
    obtain ⟨hSign, hDigits, hPlaces⟩ := Decimal.ofParts?_eq_some_iff.mp hBase
    obtain ⟨hPower, hParts⟩ := Decimal.timesTenPow?_eq_some_iff.mp hTimes
    rw [hSign, hDigits, hPlaces] at hParts
    have hPlacesLe := hPlaces ▸ base.scale_le
    have hScaleLe := hParts.2.2 ▸ d.scale_le
    have hMantissaLt := hParts.2.1 ▸ d.mantissa_lt
    exact ⟨⟨hPlacesLe, hPower, by omega, hMantissaLt⟩, hParts⟩
  · rintro ⟨hFits, hParts⟩
    have hDigitsLt : spelling.digits < Decimal.mantissaLimit :=
      Nat.lt_of_le_of_lt (Nat.le_mul_of_pos_right _ (Nat.pow_pos (by decide))) hFits.mantissa
    exact Option.bind_eq_some_iff.mpr
      ⟨⟨spelling.negative, spelling.digits, spelling.places, hDigitsLt, hFits.places⟩,
        Decimal.ofParts?_eq_some_iff.mpr ⟨rfl, rfl, rfl⟩,
        Decimal.timesTenPow?_eq_some_iff.mpr ⟨hFits.exponent, hParts⟩⟩

theorem Fits.exists_read? {spelling : Spelling} (h : spelling.Fits) :
    ∃ d, spelling.read? = some d := by
  have hScale : (spelling.places - spelling.exponent).toNat ≤ 28 := by
    have := h.scale
    omega
  exact ⟨⟨_, _, _, h.mantissa, hScale⟩, read?_eq_some_iff.mpr ⟨h, rfl, rfl, rfl⟩⟩

theorem exists_signText (cs : List Char) :
    ∃ sign, SignText (Decimal.takeSign cs).1 sign ∧ cs = sign ++ (Decimal.takeSign cs).2 := by
  unfold Decimal.takeSign
  split
  · exact ⟨['-'], .minus, rfl⟩
  · exact ⟨['+'], .plus, rfl⟩
  · exact ⟨[], .none, rfl⟩

/-- A sign is taken off the characters of a number, which begin with none. -/
theorem takeSign_append {negative : Bool} {sign rest : List Char} (hSign : SignText negative sign)
    (hRest : ∀ c ∈ rest.head?, Decimal.isNumberChar c = true) :
    Decimal.takeSign (sign ++ rest) = (negative, rest) := by
  cases hSign with
  | minus => rfl
  | plus => rfl
  | none =>
      cases rest with
      | nil => rfl
      | cons c rest => exact Decimal.takeSign_of_isNumberChar (hRest c rfl) rest

theorem exists_pointText (cs : List Char) :
    ∃ before after point, PointText after point ∧ '.' ∉ before ∧ cs = before ++ point := by
  by_cases hPoint : '.' ∈ cs
  · obtain ⟨before, after, rfl, hBefore⟩ := List.eq_append_cons_of_mem hPoint
    exact ⟨before, after, _, .point after, hBefore, rfl⟩
  · exact ⟨cs, [], [], .none, hPoint, (List.append_nil cs).symm⟩

theorem fraction_append {before after point : List Char} (hBefore : '.' ∉ before)
    (hPoint : PointText after point) : Decimal.fraction (before ++ point) = after := by
  cases hPoint with
  | point after => exact Decimal.fraction_append hBefore (Or.inl rfl)
  | none => exact Decimal.fraction_append hBefore (Or.inr ⟨rfl, rfl⟩)

theorem IsGrouped.point_not_mem {before after : List Char} (h : IsGrouped before after) :
    '.' ∉ before := by
  intro hMem
  rcases h.isDigit_or_eq '.' (List.mem_append_left after hMem) with hDigit | hGroup
  · exact absurd hDigit (by decide)
  · exact absurd hGroup (by decide)

theorem filter_isDigit_append (before : List Char) {after point : List Char}
    (hPoint : PointText after point) :
    (before ++ point).filter Char.isDigit = (before ++ after).filter Char.isDigit := by
  cases hPoint with
  | point after => simp
  | none => rfl

theorem any_isDigit_append (before : List Char) {after point : List Char}
    (hPoint : PointText after point) :
    (before ++ point).any Char.isDigit = (before ++ after).any Char.isDigit := by
  cases hPoint with
  | point after => simp [Char.isDigit]
  | none => rfl

theorem IsGrouped.any_isDigit {before after point : List Char} (h : IsGrouped before after)
    (hPoint : PointText after point) : (before ++ point).any Char.isDigit = true := by
  obtain ⟨c, hHead, hDigit⟩ := h.first
  rw [any_isDigit_append before hPoint]
  exact List.any_eq_true.mpr ⟨c, List.mem_of_mem_head? hHead, hDigit⟩

/-- No `_` stands in front of the first digit if the first character besides the point is a digit. -/
theorem underscore_not_mem_iff {before after point : List Char} (hPoint : PointText after point)
    (hChars : ∀ c ∈ before ++ after, c.isDigit = true ∨ c = '_') (hNe : before ++ after ≠ []) :
    '_' ∉ (before ++ point).takeWhile (!·.isDigit) ↔
      ∃ c ∈ (before ++ after).head?, c.isDigit = true := by
  cases before with
  | cons c before =>
      rcases hChars c List.mem_cons_self with hDigit | rfl
      · simp [hDigit]
      · simp [Char.isDigit]
  | nil =>
      cases hPoint with
      | none => exact absurd rfl hNe
      | point after =>
          have hPoint : Char.isDigit '.' = false := by decide
          obtain ⟨c, rest, rfl⟩ := List.exists_cons_of_ne_nil hNe
          rcases hChars c List.mem_cons_self with hDigit | rfl
          · simp [hDigit, hPoint]
          · simp [Char.isDigit]

theorem isNumberChar_iff {c : Char} (h : c ≠ '.') :
    Decimal.isNumberChar c = true ↔ c.isDigit = true ∨ c = '_' := by
  simp [Decimal.isNumberChar, h]

/-- A base holds one point at most, and digits and `_` around it. -/
theorem isNumberChar_and_count_iff {before after point : List Char} (hBefore : '.' ∉ before)
    (hPoint : PointText after point) :
    ((∀ c ∈ before ++ point, Decimal.isNumberChar c = true) ∧ (before ++ point).count '.' ≤ 1) ↔
      ∀ c ∈ before ++ after, c.isDigit = true ∨ c = '_' := by
  have hNone : before.count '.' = 0 := List.count_eq_zero.mpr hBefore
  have hFront : (∀ c ∈ before, Decimal.isNumberChar c = true) ↔
      ∀ c ∈ before, c.isDigit = true ∨ c = '_' :=
    forall₂_congr fun c hMem => isNumberChar_iff (ne_of_mem_of_not_mem hMem hBefore)
  cases hPoint with
  | none => simp [hFront, hNone]
  | point after =>
      have hOne : (before ++ '.' :: after).count '.' ≤ 1 ↔ '.' ∉ after := by
        rw [List.count_append, hNone, List.count_cons_self, ← List.count_eq_zero]
        omega
      have hSelf : Decimal.isNumberChar '.' = true := by decide
      rw [hOne]
      simp only [List.forall_mem_append, List.forall_mem_cons, hFront, hSelf, true_and, and_assoc]
      refine and_congr_right fun _ => ?_
      constructor
      · rintro ⟨hAll, hNoPoint⟩ c hMem
        exact (isNumberChar_iff (ne_of_mem_of_not_mem hMem hNoPoint)).mp (hAll c hMem)
      · intro hAll
        have hNoPoint : '.' ∉ after := fun hMem => by simpa [Char.isDigit] using hAll '.' hMem
        exact ⟨fun c hMem =>
          (isNumberChar_iff (ne_of_mem_of_not_mem hMem hNoPoint)).mpr (hAll c hMem), hNoPoint⟩

/-- The shape that is asked of a base is that of digits which are grouped well. -/
theorem isBody_append_iff {before after point : List Char} (hBefore : '.' ∉ before)
    (hPoint : PointText after point) :
    Decimal.isBody (before ++ point) = true ↔ IsGrouped before after := by
  have hChars := isNumberChar_and_count_iff hBefore hPoint
  simp only [Decimal.isBody, fraction_append hBefore hPoint, ← List.countP_eq_length_filter,
    any_isDigit_append before hPoint, Bool.and_eq_true, List.all_eq_true, List.any_eq_true, decide_eq_true_eq, Bool.not_eq_true',
    List.contains_eq_mem, decide_eq_false_iff_not, Bool.and_eq_false_iff, beq_eq_false_iff_ne,
    ← imp_iff_not_or]
  constructor
  · rintro ⟨⟨⟨⟨hAll, c, hMem, -⟩, hCount⟩, hGroup⟩, hLast⟩
    have hBase := hChars.mp ⟨hAll, hCount⟩
    exact ⟨hBase, (underscore_not_mem_iff hPoint hBase (List.ne_nil_of_mem hMem)).mp hGroup, hLast⟩
  · intro h
    obtain ⟨hAll, hCount⟩ := hChars.mpr h.isDigit_or_eq
    obtain ⟨c, hHead, hDigit⟩ := h.first
    have hMem := List.mem_of_mem_head? hHead
    exact ⟨⟨⟨⟨hAll, c, hMem, hDigit⟩, hCount⟩,
      (underscore_not_mem_iff hPoint h.isDigit_or_eq (List.ne_nil_of_mem hMem)).mpr h.first⟩, h.last⟩

/-- A well grouped base begins with no sign. -/
theorem IsGrouped.isNumberChar_of_mem {before after point : List Char} (h : IsGrouped before after)
    (hPoint : PointText after point) :
    ∀ c ∈ before ++ point, Decimal.isNumberChar c = true :=
  ((isNumberChar_and_count_iff h.point_not_mem hPoint).mpr h.isDigit_or_eq).1

/-- A well grouped base, with a sign or without, is read as the number of its digits and places. -/
theorem ofPlainChars?_append {negative : Bool} {sign before after point : List Char}
    (hSign : SignText negative sign) (hGrouped : IsGrouped before after)
    (hPoint : PointText after point) :
    Decimal.ofPlainChars? (sign ++ (before ++ point)) =
      Decimal.ofParts? negative (Numeral.whole (before ++ after)) (after.countP Char.isDigit) := by
  have hBody := (isBody_append_iff hGrouped.point_not_mem hPoint).mpr hGrouped
  have hStart : ∀ c ∈ (before ++ point).head?, Decimal.isNumberChar c = true := fun c hHead =>
    hGrouped.isNumberChar_of_mem hPoint c (List.mem_of_mem_head? hHead)
  simp only [Decimal.ofPlainChars?, takeSign_append hSign hStart]
  rw [if_pos hBody, filter_isDigit_append before hPoint,
    fraction_append hGrouped.point_not_mem hPoint,
    ← Numeral.whole_eq, ← List.countP_eq_length_filter]

/-- What is read without an exponent is a sign, if there is one, and a well grouped base. -/
theorem exists_append_of_ofPlainChars? {cs : List Char} {d : Decimal}
    (h : Decimal.ofPlainChars? cs = some d) :
    ∃ negative sign before after point, SignText negative sign ∧ IsGrouped before after ∧
      PointText after point ∧ cs = sign ++ (before ++ point) := by
  obtain ⟨sign, hSign, hText⟩ := exists_signText cs
  obtain ⟨before, after, point, hPoint, hBefore, hBody⟩ := exists_pointText (Decimal.takeSign cs).2
  simp only [Decimal.ofPlainChars?] at h
  split at h
  · next hShape =>
    rw [hBody] at hShape hText
    exact ⟨_, sign, before, after, point, hSign, (isBody_append_iff hBefore hPoint).mp hShape,
      hPoint, hText⟩
  · cases h

theorem exponent?_append {negative : Bool} {sign digits : List Char}
    (hSign : SignText negative sign) (hNe : digits ≠ [])
    (hDigits : ∀ c ∈ digits, c.isDigit = true) :
    Decimal.exponent? (sign ++ digits) = some (signed negative (Numeral.whole digits)) := by
  have hStart : ∀ c ∈ digits.head?, Decimal.isNumberChar c = true := fun c hHead =>
    Decimal.isNumberChar_of_isDigit (hDigits c (List.mem_of_mem_head? hHead))
  simp only [Decimal.exponent?, takeSign_append hSign hStart]
  rw [Numeral.whole_eq, List.filter_eq_self.mpr hDigits, List.isEmpty_eq_false_iff.mpr hNe,
    List.all_eq_true.mpr hDigits]
  rfl

theorem exponentText_of_exponent? {mark : Char} (hMark : Decimal.isExponentMark mark = true)
    {cs : List Char} {power : Int} (h : Decimal.exponent? cs = some power) :
    ExponentText power (mark :: cs) := by
  obtain ⟨sign, hSign, hText⟩ := exists_signText cs
  rcases hTake : Decimal.takeSign cs with ⟨negative, digits⟩
  rw [hTake] at hSign hText
  simp only [Decimal.exponent?, hTake] at h
  split at h
  · cases h
  · next hDigits =>
    simp only [Bool.or_eq_true, not_or, Bool.not_eq_true, Bool.not_eq_false',
      List.isEmpty_eq_false_iff, List.all_eq_true] at hDigits
    obtain ⟨hNe, hAll⟩ := hDigits
    have hWhole : Nat.ofDigitChars 10 digits 0 = Numeral.whole digits := by
      rw [Numeral.whole_eq, List.filter_eq_self.mpr hAll]
    obtain rfl := Option.some.inj h
    rw [hText, hWhole]
    exact .marked hMark hSign hNe hAll

/-- Neither a sign nor a base holds a letter that would announce an exponent. -/
theorem not_isExponentMark {negative : Bool} {sign before after point : List Char}
    (hSign : SignText negative sign) (hGrouped : IsGrouped before after)
    (hPoint : PointText after point) :
    ∀ c ∈ sign ++ (before ++ point), Decimal.isExponentMark c = false := by
  have hBase : ∀ c ∈ before ++ after, Decimal.isExponentMark c = false := by
    intro c hMem
    rcases hGrouped.isDigit_or_eq c hMem with hDigit | rfl
    · exact Decimal.isExponentMark_of_isDigit hDigit
    · decide
  rw [List.forall_mem_append] at hBase ⊢
  refine ⟨?_, ?_⟩
  · cases hSign <;> simp [Decimal.isExponentMark]
  · rw [List.forall_mem_append]
    refine ⟨hBase.1, ?_⟩
    cases hPoint with
    | none => exact hBase.2
    | point after => exact List.forall_mem_cons.mpr ⟨by decide, hBase.2⟩

/-- What is read from a text follows from the parts of its spelling. -/
theorem Spells.ofChars?_eq {spelling : Spelling} {cs : List Char} (h : spelling.Spells cs) :
    Decimal.ofChars? cs = spelling.read? := by
  obtain ⟨negative, before, after, power⟩ := spelling
  obtain ⟨hSign, hGrouped, hPoint, hExponent⟩ := h
  have hBase := ofPlainChars?_append hSign hGrouped hPoint
  have hNoMark := not_isExponentMark hSign hGrouped hPoint
  cases hExponent with
  | none =>
      rw [List.append_nil, Decimal.ofChars?_of_not_mark hNoMark, hBase]
      exact (read?_of_exponent_eq_zero rfl).symm
  | marked hMark hExponentSign hNe hDigits =>
      rw [Decimal.ofChars?_append_mark hNoMark hMark, hBase,
        exponent?_append hExponentSign hNe hDigits]
      rfl

/-- Every text that is read as a number is spelled in some way. -/
theorem exists_spells_of_ofChars? {cs : List Char} {d : Decimal}
    (h : Decimal.ofChars? cs = some d) : ∃ spelling : Spelling, spelling.Spells cs := by
  rw [Decimal.ofChars?] at h
  have hSplit := List.takeWhile_append_dropWhile (p := (!Decimal.isExponentMark ·)) (l := cs)
  cases hMark : cs.dropWhile (!Decimal.isExponentMark ·) with
  | nil =>
      rw [hMark] at h
      obtain ⟨negative, sign, before, after, point, hSign, hGrouped, hPoint, rfl⟩ :=
        exists_append_of_ofPlainChars? h
      refine ⟨⟨negative, before, after, 0⟩, ?_⟩
      rw [← List.append_nil (sign ++ _)]
      exact .mk hSign hGrouped hPoint .none
  | cons mark rest =>
      rw [hMark] at h hSplit
      obtain ⟨base, hBase, hRest⟩ := Option.bind_eq_some_iff.mp h
      obtain ⟨power, hPower, -⟩ := Option.bind_eq_some_iff.mp hRest
      obtain ⟨negative, sign, before, after, point, hSign, hGrouped, hPoint, hText⟩ :=
        exists_append_of_ofPlainChars? hBase
      have hIsMark : Decimal.isExponentMark mark = true := by
        have hHead := List.head?_dropWhile_not (!Decimal.isExponentMark ·) cs
        rw [hMark] at hHead
        simpa using hHead
      refine ⟨⟨negative, before, after, power⟩, ?_⟩
      rw [← hSplit, hText]
      exact .mk hSign hGrouped hPoint (exponentText_of_exponent? hIsMark hPower)

/-- The characters that a number can be written with. -/
theorem Spells.mem {spelling : Spelling} {cs : List Char} (h : spelling.Spells cs)
    {c : Char} (hMem : c ∈ cs) :
    Decimal.isNumberChar c = true ∨ Decimal.isExponentMark c = true ∨ c = '+' ∨ c = '-' := by
  have hSign {negative : Bool} {sign : List Char} (hText : SignText negative sign)
      (hIn : c ∈ sign) : c = '+' ∨ c = '-' := by
    cases hText with
    | minus => exact Or.inr (List.mem_singleton.mp hIn)
    | plus => exact Or.inl (List.mem_singleton.mp hIn)
    | none => cases hIn
  obtain ⟨negative, before, after, power⟩ := spelling
  obtain ⟨hFront, hGrouped, hPoint, hExponent⟩ := h
  rw [List.mem_append, List.mem_append] at hMem
  rcases hMem with (hMem | hMem) | hMem
  · exact Or.inr (Or.inr (hSign hFront hMem))
  · exact Or.inl (hGrouped.isNumberChar_of_mem hPoint c hMem)
  · cases hExponent with
    | none => cases hMem
    | marked hMark hExponentSign hNe hDigits =>
        rw [List.mem_cons, List.mem_append] at hMem
        rcases hMem with rfl | hMem | hMem
        · exact Or.inr (Or.inl hMark)
        · exact Or.inr (Or.inr (hSign hExponentSign hMem))
        · exact Or.inl (Decimal.isNumberChar_of_isDigit (hDigits c hMem))

end Spelling

end Tabular
