import Mathlib
import Tabular.Date.Printer
import Tabular.Date.Reader
import Tabular.Proofs.Outcome
import Tabular.Proofs.Text.Words

/-!
Reading a printed date back. The sign of a year that has not four digits keeps it apart from the
month, so that a date is read from its own text whatever its year is.
-/

namespace Tabular.Date

theorem isDigit_of_mem_paddedDigits {size number : Nat} {c : Char}
    (h : c ∈ paddedDigits size number) : c.isDigit = true := by
  rw [paddedDigits, List.leftpad, List.mem_append] at h
  rcases h with hPad | hDigit
  · rw [(List.mem_replicate.mp hPad).2]
    decide
  · exact Nat.isDigit_of_mem_toDigits (by decide) (by decide) hDigit

/-- A printed date holds digits, hyphens and the sign of its year. -/
theorem mem_chars {d : Date} {c : Char} (h : c ∈ d.chars) :
    c.isDigit = true ∨ c = '-' ∨ c = '+' := by
  have hYear (hMem : c ∈ yearChars d.year) : c.isDigit = true ∨ c = '-' ∨ c = '+' := by
    rcases List.mem_append.mp hMem with hSign | hDigit
    · split at hSign
      · exact Or.inr (Or.inl (List.mem_singleton.mp hSign))
      · split at hSign
        · exact Or.inr (Or.inr (List.mem_singleton.mp hSign))
        · cases hSign
    · exact Or.inl (isDigit_of_mem_paddedDigits hDigit)
  simp only [chars, List.mem_append, List.mem_cons] at h
  rcases h with (hMem | rfl | hMonth) | rfl | hDay
  · exact hYear hMem
  · exact Or.inr (Or.inl rfl)
  · exact Or.inl (isDigit_of_mem_paddedDigits hMonth)
  · exact Or.inr (Or.inl rfl)
  · exact Or.inl (isDigit_of_mem_paddedDigits hDay)

theorem isPlain_of_mem_chars {d : Date} {c : Char} (h : c ∈ d.chars) : Text.isPlain c = true := by
  rcases mem_chars h with hDigit | rfl | rfl
  · exact Text.isPlain_of_isDigit hDigit
  · decide
  · decide

theorem isBlank_of_mem_chars {d : Date} {c : Char} (h : c ∈ d.chars) : Text.isBlank c = false := by
  rcases mem_chars h with hDigit | rfl | rfl
  · exact Text.isBlank_of_isDigit hDigit
  · decide
  · decide

theorem paddedDigits_ne_nil (size number : Nat) : paddedDigits size number ≠ [] := by
  simp [paddedDigits, List.leftpad, Nat.toDigits_ne_nil]

/-- Zeros in front do not change the number that is read. -/
theorem ofDigitChars_paddedDigits (size number : Nat) :
    Nat.ofDigitChars 10 (paddedDigits size number) 0 = number := by
  rw [paddedDigits, List.leftpad, Nat.ofDigitChars_append, Nat.ofDigitChars_replicate_zero,
    Nat.mul_zero, Nat.ofDigitChars_ten_toDigits]

theorem length_paddedDigits {size number : Nat} (hSize : 0 < size) (h : number < 10 ^ size) :
    (paddedDigits size number).length = size := by
  have hDigits := (Nat.length_toDigits_le_iff (by decide) hSize).mpr h
  rw [paddedDigits, List.length_leftpad, Nat.max_eq_left hDigits]

/-- Digits are read up to the first character that is none, or up to as many as may be read. -/
theorem readDigits_append {limit : Nat} {digits rest : List Char} (hNe : digits ≠ [])
    (hDigits : ∀ c ∈ digits, c.isDigit = true) (hLimit : digits.length ≤ limit)
    (hEnd : digits.length = limit ∨ ∀ c ∈ rest.head?, c.isDigit = false) :
    readDigits limit (digits ++ rest) = .ok (Nat.ofDigitChars 10 digits 0, rest) := by
  have hRest : (rest.take (limit - digits.length)).takeWhile Char.isDigit = [] := by
    rcases hEnd with hFull | hOther
    · rw [hFull, Nat.sub_self, List.take_zero, List.takeWhile_nil]
    · cases rest with
      | nil => simp
      | cons c rest =>
          cases limit - digits.length with
          | zero => simp
          | succ count =>
              have hFirst : c.isDigit = false := hOther c rfl
              rw [List.take_succ_cons, List.takeWhile_cons_of_neg (by simp [hFirst])]
  have hRead : ((digits ++ rest).take limit).takeWhile Char.isDigit = digits := by
    rw [List.take_append, List.take_of_length_le hLimit, List.takeWhile_append_of_pos hDigits,
      hRest, List.append_nil]
  obtain ⟨first, others, hFirst⟩ := List.exists_cons_of_ne_nil hNe
  rw [readDigits]
  simp only [hRead, List.drop_left]
  simp [hFirst]

/-- At most two digits are read as a number, which has to be in its range. -/
theorem readNumber_append {low high : Nat} {digits rest : List Char} (hNe : digits ≠ [])
    (hDigits : ∀ c ∈ digits, c.isDigit = true) (hLimit : digits.length ≤ 2)
    (hEnd : digits.length = 2 ∨ rest = []) :
    readNumber low high (digits ++ rest) =
      if low ≤ Nat.ofDigitChars 10 digits 0 ∧ Nat.ofDigitChars 10 digits 0 ≤ high then
        .ok (Nat.ofDigitChars 10 digits 0, rest)
      else .error .outOfRange := by
  have hBlank : ∀ c ∈ (digits ++ rest).head?, Text.isBlank c = false := by
    intro c hFirst
    rw [List.head?_append, List.head?_eq_some_head hNe, Option.some_or,
      Option.mem_some_iff] at hFirst
    exact Text.isBlank_of_isDigit (hDigits c (hFirst ▸ List.head_mem _))
  have hStop : digits.length = 2 ∨ ∀ c ∈ rest.head?, c.isDigit = false :=
    hEnd.imp_right fun hNil => by simp [hNil]
  rw [readNumber, Text.trimStart_eq_self hBlank, readDigits_append hNe hDigits hLimit hStop]
  rfl

theorem yearChars_of_neg {year : Int} (h : year < 0) :
    yearChars year = '-' :: paddedDigits 4 year.natAbs := by
  simp [yearChars, h]

theorem yearChars_of_large {year : Int} (h : 9999 < year) :
    yearChars year = '+' :: paddedDigits 4 year.natAbs := by
  have hSign : ¬ year < 0 := by omega
  simp [yearChars, h, hSign]

theorem yearChars_of_four {year : Int} (hLow : 0 ≤ year) (hHigh : year ≤ 9999) :
    yearChars year = paddedDigits 4 year.natAbs := by
  have hSign : ¬ year < 0 := by omega
  have hLarge : ¬ 9999 < year := by omega
  simp [yearChars, hSign, hLarge]

theorem year_le {year : Int} {month day : Nat} (h : isValid year month day = true) :
    -262143 ≤ year ∧ year ≤ 262142 := by
  simp only [isValid, Bool.and_eq_true, decide_eq_true_eq] at h
  omega

theorem yearInRange_of_isValid {year : Int} {month day : Nat}
    (h : isValid year month day = true) (rest : List Char) :
    yearInRange year rest = .ok (year, rest) := by
  have hYear := year_le h
  exact if_pos (by omega)

section
variable {cs rest : List Char} {number : Nat}

theorem readYear_minus (h : readDigits cs.length cs = .ok (number, rest)) :
    readYear ('-' :: cs) = yearInRange (-number) rest := by
  show (readDigits cs.length cs >>= _) = _
  rw [h, ok_bind]

theorem readYear_plus (h : readDigits cs.length cs = .ok (number, rest)) :
    readYear ('+' :: cs) = yearInRange number rest := by
  show (readDigits cs.length cs >>= _) = _
  rw [h, ok_bind]

/-- A year without a sign has at most four digits. -/
theorem readYear_of_isDigit {c : Char} (hDigit : c.isDigit = true)
    (h : readDigits 4 (c :: cs) = .ok (number, rest)) :
    readYear (c :: cs) = yearInRange number rest := by
  have hFirst : Text.trimStart (c :: cs) = c :: cs := Text.trimStart_eq_self fun other hOther =>
    Option.some.inj hOther ▸ Text.isBlank_of_isDigit hDigit
  have hMinus : c ≠ '-' := fun hEq => absurd (hEq ▸ hDigit) (by decide)
  have hPlus : c ≠ '+' := fun hEq => absurd (hEq ▸ hDigit) (by decide)
  rw [readYear, hFirst]
  split
  · next hCons => exact absurd (List.cons.inj hCons).1 hMinus
  · next hCons => exact absurd (List.cons.inj hCons).1 hPlus
  · rw [h, ok_bind]

end

/-- A printed year is read up to the hyphen behind it, with its sign. -/
theorem readYear_append {year : Int} {month day : Nat} (h : isValid year month day = true)
    (rest : List Char) : readYear (yearChars year ++ '-' :: rest) = .ok (year, '-' :: rest) := by
  have hDigits : ∀ c ∈ paddedDigits 4 year.natAbs, c.isDigit = true := fun _ =>
    isDigit_of_mem_paddedDigits
  have hHyphen : ∀ c ∈ ('-' :: rest).head?, c.isDigit = false := by
    intro c hFirst
    rw [← Option.some.inj hFirst]
    decide
  have hRead {limit : Nat} (hLimit : (paddedDigits 4 year.natAbs).length ≤ limit) :
      readDigits limit (paddedDigits 4 year.natAbs ++ '-' :: rest) =
        .ok (year.natAbs, '-' :: rest) := by
    rw [readDigits_append (paddedDigits_ne_nil 4 _) hDigits hLimit (Or.inr hHyphen),
      ofDigitChars_paddedDigits]
  have hRange := yearInRange_of_isValid h ('-' :: rest)
  rcases lt_or_ge year 0 with hNegative | hPositive
  · have hMinus : -(year.natAbs : Int) = year := by omega
    rw [yearChars_of_neg hNegative, List.cons_append, readYear_minus (hRead (by simp)), hMinus,
      hRange]
  · have hAbs : (year.natAbs : Int) = year := by omega
    rcases lt_or_ge 9999 year with hLarge | hFour
    · rw [yearChars_of_large hLarge, List.cons_append, readYear_plus (hRead (by simp)), hAbs,
        hRange]
    · have hLength : (paddedDigits 4 year.natAbs).length = 4 :=
        length_paddedDigits (by decide) (by omega)
      obtain ⟨first, others, hFirst⟩ := List.exists_cons_of_ne_nil
        (paddedDigits_ne_nil 4 year.natAbs)
      have hYear := hRead (Nat.le_of_eq hLength)
      rw [hFirst, List.cons_append] at hYear
      rw [yearChars_of_four hPositive hFour, hFirst, List.cons_append,
        readYear_of_isDigit (hDigits first (hFirst ▸ List.mem_cons_self)) hYear, hAbs, hRange]

theorem daysInMonth_le (year : Int) (month : Nat) : daysInMonth year month ≤ 31 := by
  unfold daysInMonth
  split
  · split <;> decide
  · split <;> decide

theorem month_and_day_le {year : Int} {month day : Nat} (h : isValid year month day = true) :
    1 ≤ month ∧ month ≤ 12 ∧ 1 ≤ day ∧ day ≤ 31 := by
  have hDays := daysInMonth_le year month
  simp only [isValid, Bool.and_eq_true, decide_eq_true_eq] at h
  omega

theorem length_month (d : Date) : (paddedDigits 2 d.month).length = 2 :=
  length_paddedDigits (by decide) (by have := month_and_day_le d.valid; omega)

theorem length_day (d : Date) : (paddedDigits 2 d.day).length = 2 :=
  length_paddedDigits (by decide) (by have := month_and_day_le d.valid; omega)

/-- The end of a date, from the hyphen in front of the day, read for this year and month. -/
def ofEnding (year : Int) (month : Nat) (cs : List Char) : Except Fault Date := do
  let rest ← readHyphen cs
  let (day, rest) ← readNumber 1 31 rest
  if !rest.isEmpty then .error .trailing
  else
    match ofParts? year month day with
    | some date => .ok date
    | none => .error .outOfRange

/-- Year and month are read from the front of a printed date, whatever stands where the day should
be. -/
theorem ofChars_front (d : Date) (ending : List Char) :
    ofChars (yearChars d.year ++ '-' :: (paddedDigits 2 d.month ++ ending)) =
      ofEnding d.year d.month ending := by
  obtain ⟨hLow, hHigh, -, -⟩ := month_and_day_le d.valid
  have hMonth : readNumber 1 12 (paddedDigits 2 d.month ++ ending) = .ok (d.month, ending) := by
    rw [readNumber_append (paddedDigits_ne_nil 2 _) (fun _ => isDigit_of_mem_paddedDigits)
      (Nat.le_of_eq d.length_month) (Or.inl d.length_month), ofDigitChars_paddedDigits]
    exact if_pos ⟨hLow, hHigh⟩
  rw [ofChars, readYear_append d.valid]
  show (readNumber 1 12 (paddedDigits 2 d.month ++ ending) >>= _) = _
  rw [hMonth]
  rfl

/-- The date, if there is one. -/
def orFault (date? : Option Date) (fault : Fault) : Except Fault Date :=
  match date? with
  | some date => .ok date
  | none => .error fault

/-- One or two digits are a day if the month has it. -/
theorem ofEnding_digits {digits : List Char} (hNe : digits ≠ [])
    (hDigits : ∀ c ∈ digits, c.isDigit = true) (hLimit : digits.length ≤ 2) (year : Int)
    (month : Nat) :
    ofEnding year month ('-' :: digits) =
      orFault (ofParts? year month (Nat.ofDigitChars 10 digits 0)) .outOfRange := by
  have hRead : readNumber 1 31 (digits ++ []) = _ :=
    readNumber_append hNe hDigits hLimit (Or.inr rfl)
  rw [List.append_nil] at hRead
  show (readNumber 1 31 digits >>= _) = _
  rw [hRead]
  split
  · rfl
  · next hOutside =>
    have hNone : ofParts? year month (Nat.ofDigitChars 10 digits 0) = none :=
      dif_neg fun hValid => hOutside (month_and_day_le hValid).2.2
    rw [hNone]
    rfl

theorem ofParts?_parts (d : Date) : ofParts? d.year d.month d.day = some d :=
  ofParts?_eq_some_iff.mpr ⟨rfl, rfl, rfl⟩

/-- A date is read from its own text. -/
theorem ofChars_chars (d : Date) : ofChars d.chars = .ok d := by
  have hFront := ofChars_front d ('-' :: paddedDigits 2 d.day)
  rw [ofEnding_digits (paddedDigits_ne_nil 2 _) (fun _ => isDigit_of_mem_paddedDigits)
    (Nat.le_of_eq d.length_day), ofDigitChars_paddedDigits, ofParts?_parts] at hFront
  rw [chars, List.append_assoc, List.cons_append]
  exact hFront

end Tabular.Date
