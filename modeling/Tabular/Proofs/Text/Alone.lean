import Mathlib.Tactic.SplitIfs
import Tabular.Text.Separator

/-!
The columns of a character that stands by itself. The tables of the letters that may join, of the
flags and of the pictures have no character in common, and none of theirs is invisible: whatever a
character may become together with others, by itself it has the columns that its East Asian width
says.
-/

namespace Tabular.Text

namespace CodePoints

/-- Every interval lies in one of the other list. -/
def within (points others : CodePoints) : Bool :=
  points.all fun interval => others.any fun other =>
    Nat.ble other.1 interval.1 && Nat.ble interval.2 other.2

/-- No interval meets one of the other list. -/
def apartFrom (points others : CodePoints) : Bool :=
  points.all fun interval => others.all fun other =>
    Nat.blt interval.2 other.1 || Nat.blt other.2 interval.1

theorem has_nil (c : Char) : has [] c = false :=
  rfl

theorem has_cons (low high : Nat) (points : CodePoints) (c : Char) :
    has ((low, high) :: points) c = (decide (low ≤ c.toNat ∧ c.toNat ≤ high) || points.has c) := by
  simp [has]

variable {points : CodePoints} {c : Char}

theorem has_of_within (others : CodePoints) (h : points.has c = true)
    (hWithin : points.within others = true) : others.has c = true := by
  obtain ⟨interval, hInterval, hLow, hHigh⟩ := (has_iff points c).mp h
  have hOther := List.all_eq_true.mp hWithin interval hInterval
  obtain ⟨other, hMem, hBounds⟩ := List.any_eq_true.mp hOther
  simp only [Bool.and_eq_true, Nat.ble_eq] at hBounds
  exact (has_iff others c).mpr ⟨other, hMem, by omega, by omega⟩

theorem not_has_of_apartFrom (others : CodePoints) (h : points.has c = true)
    (hApart : points.apartFrom others = true) : others.has c = false := by
  rw [Bool.eq_false_iff]
  intro hOther
  obtain ⟨interval, hInterval, hLow, hHigh⟩ := (has_iff points c).mp h
  obtain ⟨other, hMem, hOtherLow, hOtherHigh⟩ := (has_iff others c).mp hOther
  have hMeets := List.all_eq_true.mp (List.all_eq_true.mp hApart interval hInterval) other hMem
  simp only [Bool.or_eq_true, Nat.blt_eq] at hMeets
  omega

theorem bounds_of_has (low high : Nat) (h : points.has c = true)
    (hWithin : points.within [(low, high)] = true) : low ≤ c.toNat ∧ c.toNat ≤ high := by
  have hBounds := has_of_within [(low, high)] h hWithin
  rw [has_cons, has_nil, Bool.or_false] at hBounds
  exact of_decide_eq_true hBounds

theorem ne_of_has (n : Nat) (h : points.has c = true)
    (hApart : points.apartFrom [(n, n)] = true) : c.toNat ≠ n := by
  have hOther := not_has_of_apartFrom [(n, n)] h hApart
  rw [has_cons, has_nil, Bool.or_false] at hOther
  have hBounds := of_decide_eq_false hOther
  omega

end CodePoints

theorem eq_ofNat {c : Char} {n : Nat} (h : c.toNat = n) : c = Char.ofNat n := by
  rw [← h, Char.ofNat_toNat]

/-- Letters that may join with a letter in front of them. -/
def joiningLetters : CodePoints :=
  alefs ++ coengLetters ++ tifinaghConsonants ++
    [(0x5DC, 0x5DC), (0x1A10, 0x1A10), (0xA4FC, 0xA4FD), (0x10C03, 0x10C03)]

/-- The selectors, and characters that are wider than what they consist of. -/
def exceptional : CodePoints :=
  [(0x115F, 0x115F), (0x17A4, 0x17A4), (0x17D8, 0x17D8), (0xFE0E, 0xFE0F)]

/-- The letters of flags. -/
def regionals : CodePoints :=
  [(0x1F1E6, 0x1F1FF)]

/-- The skin tones. -/
def modifiers : CodePoints :=
  [(0x1F3FB, 0x1F3FF)]

/-- Where the letters of flags, the skin tones and the pictures are. -/
def emojiRanges : CodePoints :=
  [(0x231A, 0x2B55), (0x1F004, 0x1FAF8)]

/-- Characters whose columns do not follow from their East Asian width. -/
def irregular : CodePoints :=
  graphemeExtend ++ invisible ++ [(0, 0xA0), (0x17A4, 0x17A4), (0x17D8, 0x17D8)]

theorem isRegional_eq (c : Char) : isRegional c = regionals.has c := by
  simp [isRegional, regionals, CodePoints.has]

theorem isModifier_eq (c : Char) : isModifier c = modifiers.has c := by
  simp [isModifier, modifiers, CodePoints.has]

theorem exceptional_eq_false_iff (c : Char) :
    exceptional.has c = false ↔ c.toNat ≠ 0x115F ∧ c.toNat ≠ 0x17A4 ∧ c.toNat ≠ 0x17D8 ∧
      c.toNat ≠ 0xFE0E ∧ c.toNat ≠ 0xFE0F := by
  simp only [exceptional, CodePoints.has_cons, CodePoints.has_nil, Bool.or_eq_false_iff,
    decide_eq_false_iff_not, and_true]
  omega

/-- The columns of a character by itself. -/
def ownColumns (c : Char) : Nat :=
  if c = '\n' then 0
  else if c.toNat ≤ 0xA0 then 1
  else if c.toNat = 0x17D8 then 3
  else if c.toNat = 0x17A4 then 2
  else if isInvisible c then 0
  else if wide.has c then 2
  else 1

theorem ownColumns_of_high {c : Char} (hHigh : 0xA0 < c.toNat) (hThree : c.toNat ≠ 0x17D8)
    (hTwo : c.toNat ≠ 0x17A4) :
    ownColumns c = if isInvisible c then 0 else if wide.has c then 2 else 1 := by
  have hFeed : c ≠ '\n' := by
    rintro rfl
    exact absurd hHigh (by decide)
  rw [ownColumns, if_neg hFeed, if_neg (Nat.not_le_of_lt hHigh), if_neg hThree, if_neg hTwo]

theorem isInvisible_of_regular {c : Char} (h : irregular.has c = false) :
    isInvisible c = false := by
  simp only [irregular, CodePoints.has_append, Bool.or_eq_false_iff] at h
  simp [isInvisible, h]

theorem ownColumns_of_regular {c : Char} (h : irregular.has c = false) :
    ownColumns c = if wide.has c then 2 else 1 := by
  have hSeen := isInvisible_of_regular h
  simp only [irregular, CodePoints.has_append, CodePoints.has_cons, CodePoints.has_nil,
    Bool.or_eq_false_iff, decide_eq_false_iff_not] at h
  obtain ⟨-, hHigh, hTwo, hThree, -⟩ := h
  rw [ownColumns_of_high (by omega) (by omega) (by omega), hSeen]
  rfl

/-- The long tables are compared here once. What is said of them below follows from it. -/
theorem regular_tables :
    joiningLetters.apartFrom
        (wide ++ irregular ++ exceptional ++ regionals ++ modifiers ++ emojiPresentation) = true ∧
      emojiRanges.apartFrom irregular = true := by
  decide +kernel

theorem ownColumns_of_emoji {points : CodePoints} {c : Char} (h : points.has c = true)
    (hWithin : points.within emojiRanges = true) :
    ownColumns c = if wide.has c then 2 else 1 := by
  have hRange := CodePoints.has_of_within emojiRanges h hWithin
  exact ownColumns_of_regular (CodePoints.not_has_of_apartFrom irregular hRange regular_tables.2)

/-- A letter that may join is in no other table. -/
theorem joiningLetters_spec {c : Char} (h : joiningLetters.has c = true) :
    wide.has c = false ∧ irregular.has c = false ∧ exceptional.has c = false ∧
      regionals.has c = false ∧ modifiers.has c = false ∧ emojiPresentation.has c = false := by
  have hOther := CodePoints.not_has_of_apartFrom _ h regular_tables.1
  simpa only [CodePoints.has_append, Bool.or_eq_false_iff, and_assoc] using hOther

/-- A character that is neither a letter of a ligature nor an exception. -/
theorem alone_eq {c : Char} (hLetter : joiningLetters.has c = false)
    (hException : exceptional.has c = false) :
    alone c =
      if regionals.has c then (1, .regional)
      else if modifiers.has c then (2, .modifier)
      else if emojiPresentation.has c then (2, .emoji)
      else if isInvisible c then (0, .plain)
      else if wide.has c then (2, .plain)
      else (1, .plain) := by
  simp only [joiningLetters, CodePoints.has_append, CodePoints.has_cons, CodePoints.has_nil,
    Bool.or_eq_false_iff, decide_eq_false_iff_not] at hLetter
  obtain ⟨⟨⟨hAlef, hCoeng⟩, hTifinagh⟩, hLamed, hYa, hLisu, hTurkic, -⟩ := hLetter
  have hSpecial := (exceptional_eq_false_iff c).mp hException
  have hOther : c.toNat ≠ 0x5DC ∧ c.toNat ≠ 0x1A10 ∧ c.toNat ≠ 0x10C03 := by omega
  simp only [alone, hSpecial, hOther, hAlef, hCoeng, hTifinagh, hLisu, isRegional_eq, isModifier_eq,
    beq_iff_eq, Bool.or_eq_true, Bool.and_eq_true, decide_eq_true_eq, or_self, if_false,
    Bool.false_eq_true]

/-- A letter that may join has one column, which some letters keep back. -/
theorem columns_alone_of_joiningLetters {c : Char} (h : joiningLetters.has c = true) :
    (alone c).1 + (alone c).2.held = 1 := by
  obtain ⟨hWide, hRegular, hException, hRegional, hModifier, hPicture⟩ := joiningLetters_spec h
  have hSpecial := (exceptional_eq_false_iff c).mp hException
  simp only [alone, hSpecial, hWide, isInvisible_of_regular hRegular, hPicture, isRegional_eq,
    hRegional, isModifier_eq, hModifier, beq_iff_eq, Bool.or_eq_true, or_self, if_false,
    Bool.false_eq_true]
  split_ifs <;> rfl

theorem columns_alone_of_exceptional {c : Char} (h : exceptional.has c = true) :
    (alone c).1 + (alone c).2.held = ownColumns c := by
  have hSpecial := (not_congr (exceptional_eq_false_iff c)).mp (by simp [h])
  have hOne : c.toNat = 0x115F ∨ c.toNat = 0x17A4 ∨ c.toNat = 0x17D8 ∨ c.toNat = 0xFE0E ∨
      c.toNat = 0xFE0F := by omega
  rcases hOne with hPoint | hPoint | hPoint | hPoint | hPoint <;>
    rw [eq_ofNat hPoint] <;> decide +kernel

theorem alone_of_regionals {c : Char} (h : regionals.has c = true) : alone c = (1, .regional) := by
  rw [alone_eq (CodePoints.not_has_of_apartFrom _ h (by decide))
    (CodePoints.not_has_of_apartFrom _ h (by decide)), if_pos h]

theorem alone_of_modifiers {c : Char} (h : modifiers.has c = true) : alone c = (2, .modifier) := by
  have hRegional : regionals.has c = false :=
    CodePoints.not_has_of_apartFrom _ h (by decide)
  rw [alone_eq (CodePoints.not_has_of_apartFrom _ h (by decide))
    (CodePoints.not_has_of_apartFrom _ h (by decide)), hRegional, if_pos h]
  rfl

theorem alone_of_emojiPresentation {c : Char} (h : emojiPresentation.has c = true) :
    alone c = (2, if modifiers.has c then .modifier else .emoji) := by
  have hRegional : regionals.has c = false :=
    CodePoints.not_has_of_apartFrom _ h (by decide)
  rw [alone_eq (CodePoints.not_has_of_apartFrom _ h (by decide))
    (CodePoints.not_has_of_apartFrom _ h (by decide)), hRegional, h]
  cases modifiers.has c <;> rfl

/-- A flag letter has one column, a skin tone and a picture have two, and any other character has
those that its East Asian width says. -/
theorem columns_alone_of_regular {c : Char} (hHigh : 0xA0 < c.toNat)
    (hLetter : joiningLetters.has c = false) (hException : exceptional.has c = false) :
    (alone c).1 + (alone c).2.held = ownColumns c := by
  rw [alone_eq hLetter hException]
  by_cases hRegional : regionals.has c = true
  · have hWide : wide.has c = false :=
      CodePoints.not_has_of_apartFrom _ hRegional (by decide)
    rw [if_pos hRegional, ownColumns_of_emoji hRegional (by decide), hWide]
    rfl
  by_cases hModifier : modifiers.has c = true
  · have hWide : wide.has c = true := CodePoints.has_of_within _ hModifier (by decide)
    rw [if_neg hRegional, if_pos hModifier, ownColumns_of_emoji hModifier (by decide), hWide]
    rfl
  by_cases hPicture : emojiPresentation.has c = true
  · have hWide : wide.has c = true := CodePoints.has_of_within _ hPicture (by decide)
    rw [if_neg hRegional, if_neg hModifier, if_pos hPicture,
      ownColumns_of_emoji hPicture (by decide), hWide]
    rfl
  obtain ⟨-, hTwo, hThree, -⟩ := (exceptional_eq_false_iff c).mp hException
  rw [if_neg hRegional, if_neg hModifier, if_neg hPicture, ownColumns_of_high hHigh hThree hTwo]
  cases isInvisible c with
  | true => rfl
  | false => cases wide.has c <;> rfl

theorem columns_alone {c : Char} (hHigh : 0xA0 < c.toNat) :
    (alone c).1 + (alone c).2.held = ownColumns c := by
  cases hLetter : joiningLetters.has c with
  | true =>
      obtain ⟨hWide, hRegular, -⟩ := joiningLetters_spec hLetter
      rw [columns_alone_of_joiningLetters hLetter, ownColumns_of_regular hRegular, hWide]
      rfl
  | false =>
      cases hException : exceptional.has c with
      | true => exact columns_alone_of_exceptional hException
      | false => exact columns_alone_of_regular hHigh hLetter hException

theorem step_plain {c : Char} (h : 0xA0 < c.toNat) : step c .plain = alone c := by
  simp [step, Ahead.wantsEmoji, Nat.not_le_of_lt h, stepWide]

/-- A character by itself takes its own columns. -/
theorem columns_singleton (c : Char) : columns [c] = ownColumns c := by
  have hMeasure : measure [c] = step c .plain := by simp [measure]
  rw [columns, hMeasure]
  by_cases hLow : c.toNat ≤ 0xA0
  · by_cases hFeed : c = '\n'
    · subst hFeed
      rfl
    · simp [step, Ahead.wantsEmoji, Ahead.held, hLow, hFeed, ownColumns]
  · have hHigh : 0xA0 < c.toNat := Nat.lt_of_not_le hLow
    rw [step_plain hHigh, columns_alone hHigh]

end Tabular.Text
