import Mathlib
import Tabular.Document.Conversion
import Tabular.Layout.Column
import Tabular.Proofs.Date.ReadBack

/-!
The field of a date. Its ten columns hold a date of a year of four digits; the text of any other
date is longer, and its end is cut off. What remains is read as another day of the month, or not at
all.
-/

namespace Tabular

namespace Text

/-- A plain text loses the characters for which there is no column. -/
theorem extend_of_isPlain {limit : Nat} {shown rest : List Char}
    (hShown : ∀ c ∈ shown, isPlain c = true) (hRest : ∀ c ∈ rest, isPlain c = true)
    (hLength : shown.length ≤ limit) : extend limit shown rest = (shown ++ rest).take limit := by
  induction rest generalizing shown with
  | nil => rw [extend, List.append_nil, List.take_of_length_le hLength]
  | cons c rest ih =>
      obtain ⟨hFirst, hOthers⟩ := List.forall_mem_cons.mp hRest
      have hLonger : ∀ other ∈ shown ++ [c], isPlain other = true :=
        List.forall_mem_append.mpr ⟨hShown, by simpa using hFirst⟩
      rw [extend, columns_of_isPlain hLonger]
      split
      · next hRoom => rw [ih hLonger hOthers hRoom, List.append_assoc, List.singleton_append]
      · next hFull =>
        have hExact : shown.length = limit := by
          rw [List.length_append, List.length_singleton] at hFull
          omega
        rw [← hExact, List.take_left]

theorem cut_of_isPlain {cs : List Char} (h : ∀ c ∈ cs, isPlain c = true) (limit : Nat) :
    cut limit cs = cs.take limit := by
  rw [cut, columns_of_isPlain h]
  split
  · next hRoom => rw [List.take_of_length_le hRoom]
  · exact extend_of_isPlain (by simp) h (Nat.zero_le limit)

end Text

namespace Date

/-- What the field of a date keeps of the day: all of it in a year of four digits; its tens in a
year of four digits before the year 0, whose sign takes a column; and nothing in any other year. -/
def keptDay (d : Date) : Nat :=
  if 0 ≤ d.year ∧ d.year ≤ 9999 then d.day
  else if -9999 ≤ d.year ∧ d.year < 0 then d.day / 10
  else 0

/-- What stands behind the month in a field that keeps this much of the day. -/
def ending (year : Int) (kept : Nat) : List Char :=
  if 0 ≤ year ∧ year ≤ 9999 then '-' :: paddedDigits 2 kept
  else if -9999 ≤ year ∧ year < 0 then '-' :: paddedDigits 1 kept
  else if year.natAbs < 100000 then ['-'] else []

theorem paddedDigits_two {number : Nat} (h : number < 100) :
    paddedDigits 2 number = paddedDigits 1 (number / 10) ++ [Nat.digitChar (number % 10)] := by
  rcases Nat.lt_or_ge number 10 with hSmall | hLarge
  · have hZero : number / 10 = 0 := Nat.div_eq_of_lt hSmall
    rw [hZero, Nat.mod_eq_of_lt hSmall, paddedDigits, Nat.toDigits_of_lt_base hSmall]
    rfl
  · have hTens : number / 10 < 10 := by omega
    rw [paddedDigits, paddedDigits, Nat.toDigits_of_base_le (by decide) hLarge,
      Nat.toDigits_of_lt_base hTens]
    rfl

theorem length_paddedDigits_of_le {size number : Nat} (count : Nat) (hSize : size ≤ count + 1)
    (hCount : 0 < count) (hLow : 10 ^ count ≤ number) (hHigh : number < 10 ^ (count + 1)) :
    (paddedDigits size number).length = count + 1 := by
  have hUpper : (Nat.toDigits 10 number).length ≤ count + 1 :=
    (Nat.length_toDigits_le_iff (by decide) (Nat.succ_pos count)).mpr hHigh
  have hLower : ¬ (Nat.toDigits 10 number).length ≤ count := fun hShort =>
    Nat.not_lt_of_le hLow ((Nat.length_toDigits_le_iff (by decide) hCount).mp hShort)
  rw [paddedDigits, List.length_leftpad]
  omega

theorem length_paddedDigits_year {number : Nat} (hHigh : number < 10 ^ 6) :
    (paddedDigits 4 number).length =
      if number < 10000 then 4 else if number < 100000 then 5 else 6 := by
  split
  · next hFour => exact length_paddedDigits (by decide) hFour
  · next hFour =>
    split
    · next hFive =>
      exact length_paddedDigits_of_le 4 (by decide) (by decide) (by omega) hFive
    · next hFive =>
      exact length_paddedDigits_of_le 5 (by decide) (by decide) (by omega) hHigh

/-- The columns that a year takes: its digits and, unless they are four and nothing stands in front
of them, a sign. -/
theorem length_yearChars {year : Int} {month day : Nat} (h : isValid year month day = true) :
    (yearChars year).length =
      if 0 ≤ year ∧ year ≤ 9999 then 4
      else if -9999 ≤ year ∧ year < 0 then 5
      else if year.natAbs < 100000 then 6 else 7 := by
  have hDigits : (paddedDigits 4 year.natAbs).length = _ :=
    length_paddedDigits_year (by have := year_le h; omega)
  rcases lt_or_ge year 0 with hNegative | hPositive
  · rw [yearChars_of_neg hNegative, List.length_cons, hDigits]
    split_ifs <;> omega
  · rcases lt_or_ge 9999 year with hLarge | hFour
    · rw [yearChars_of_large hLarge, List.length_cons, hDigits]
      split_ifs <;> omega
    · rw [yearChars_of_four hPositive hFour, hDigits]
      split_ifs <;> omega

/-- Behind the month there is room for the rest of ten columns. -/
theorem take_day {d : Date} :
    ('-' :: paddedDigits 2 d.day).take (7 - (yearChars d.year).length) =
      ending d.year d.keptDay := by
  have hDay : d.day < 100 := by
    have hBounds := month_and_day_le d.valid
    omega
  have hTens : (paddedDigits 1 (d.day / 10)).length = 1 :=
    length_paddedDigits (by decide) (by omega)
  rw [length_yearChars d.valid, ending, keptDay]
  split_ifs with hFour hBefore hFive
  · rw [List.take_of_length_le]
    rw [List.length_cons, d.length_day]
  · rw [paddedDigits_two hDay, ← List.cons_append]
    exact List.take_left' (by rw [List.length_cons, hTens])
  · rfl
  · rfl

theorem take_chars (d : Date) :
    d.chars.take 10 = yearChars d.year ++
      '-' :: (paddedDigits 2 d.month ++ ending d.year d.keptDay) := by
  have hYear : (yearChars d.year).length ≤ 7 := by
    rw [length_yearChars d.valid]
    split_ifs <;> decide
  have hFront : (yearChars d.year ++ '-' :: paddedDigits 2 d.month).length =
      (yearChars d.year).length + 3 := by
    rw [List.length_append, List.length_cons, d.length_month]
  have hRoom : 10 - (yearChars d.year ++ '-' :: paddedDigits 2 d.month).length =
      7 - (yearChars d.year).length := by omega
  rw [chars, List.take_append, List.take_of_length_le (by omega), hRoom, take_day,
    List.append_assoc, List.cons_append]

/-- The text of a date fills the field. -/
theorem length_take_chars (d : Date) : (d.chars.take 10).length = 10 := by
  have hYear : 4 ≤ (yearChars d.year).length := by
    rw [length_yearChars d.valid]
    split_ifs <;> decide
  rw [List.length_take, chars]
  simp only [List.length_append, List.length_cons, length_month, length_day]
  omega

/-- The line that a column of dates shows for a date. -/
def field (d : Date) : String :=
  Text.fit d.text ColumnLayout.dateWidth

theorem toList_field (d : Date) : d.field.toList = d.chars.take 10 := by
  have hPlain : ∀ c ∈ d.chars, Text.isPlain c = true := fun _ => isPlain_of_mem_chars
  have hCut : Text.cut ColumnLayout.dateWidth d.text.toList = d.chars.take 10 := by
    rw [toList_text, Text.cut_of_isPlain hPlain, ColumnLayout.dateWidth]
  have hColumns : Text.columns (d.chars.take 10) = 10 := by
    rw [Text.columns_of_isPlain fun c hMem => hPlain c (List.mem_of_mem_take hMem),
      length_take_chars]
  rw [field, Text.toList_fit, hCut, hColumns, ColumnLayout.dateWidth, Nat.sub_self,
    List.replicate_zero, List.append_nil]

/-- A field without the day says too little; one with too small a day names no date. -/
def cutFault (year : Int) : Fault :=
  if year.natAbs ≤ 9999 then .outOfRange else .tooShort

/-- A field is read as the date that it still names, if there is one. -/
theorem ofChars_take (d : Date) :
    ofChars (d.chars.take 10) =
      orFault (ofParts? d.year d.month d.keptDay) (cutFault d.year) := by
  have hDay : d.day ≤ 31 := (month_and_day_le d.valid).2.2.2
  have hRead {size : Nat} (hPos : 0 < size) (hTwo : size ≤ 2) (hKept : d.keptDay < 10 ^ size)
      (hFault : d.year.natAbs ≤ 9999) :
      ofEnding d.year d.month ('-' :: paddedDigits size d.keptDay) =
        orFault (ofParts? d.year d.month d.keptDay) (cutFault d.year) := by
    have hLength := length_paddedDigits hPos hKept
    rw [ofEnding_digits (paddedDigits_ne_nil size _) (fun _ => isDigit_of_mem_paddedDigits)
      (by omega), ofDigitChars_paddedDigits, cutFault, if_pos hFault]
  have hNone (hKept : d.keptDay = 0) : ofParts? d.year d.month d.keptDay = none :=
    dif_neg fun hValid => by
      have hBounds := month_and_day_le hValid
      omega
  rw [take_chars, ofChars_front, ending]
  split_ifs with hFour hBefore hFive
  · exact hRead (by decide) (by decide) (by rw [keptDay, if_pos hFour]; omega) (by omega)
  · exact hRead (by decide) (by decide) (by rw [keptDay, if_neg hFour, if_pos hBefore]; omega)
      (by omega)
  · rw [hNone (by rw [keptDay, if_neg hFour, if_neg hBefore]), cutFault, if_neg (by omega)]
    rfl
  · rw [hNone (by rw [keptDay, if_neg hFour, if_neg hBefore]), cutFault, if_neg (by omega)]
    rfl

theorem eq_of_ending_eq {year : Int} {kept other : Nat} (h : ending year kept = ending year other)
    (hNone : ¬ (0 ≤ year ∧ year ≤ 9999) → ¬ (-9999 ≤ year ∧ year < 0) → kept = other) :
    kept = other := by
  have hDigits {size : Nat}
      (hEqual : '-' :: paddedDigits size kept = '-' :: paddedDigits size other) : kept = other := by
    have hValue := congrArg (Nat.ofDigitChars 10 · 0) (List.cons.inj hEqual).2
    simpa only [ofDigitChars_paddedDigits] using hValue
  rw [ending, ending] at h
  split_ifs at h with hFour hBefore
  · exact hDigits h
  · exact hDigits h
  · exact hNone hFour hBefore
  · exact hNone hFour hBefore

/-- Two dates have the same field if it keeps the same of both. -/
theorem field_eq_iff (d other : Date) :
    other.field = d.field ↔
      other.year = d.year ∧ other.month = d.month ∧ other.keptDay = d.keptDay := by
  rw [← String.toList_inj, toList_field, toList_field, take_chars, take_chars]
  constructor
  · intro h
    have hRead := congrArg readYear h
    rw [readYear_append other.valid, readYear_append d.valid, Except.ok.injEq, Prod.mk.injEq,
      List.cons.injEq] at hRead
    obtain ⟨hYear, -, hRest⟩ := hRead
    have hLength : (paddedDigits 2 other.month).length = (paddedDigits 2 d.month).length := by
      rw [length_month, length_month]
    obtain ⟨hMonth, hEnding⟩ := List.append_inj hRest hLength
    have hValue := congrArg (Nat.ofDigitChars 10 · 0) hMonth
    simp only [ofDigitChars_paddedDigits] at hValue
    rw [hYear] at hEnding
    refine ⟨hYear, hValue, eq_of_ending_eq hEnding fun hFour hBefore => ?_⟩
    rw [keptDay, keptDay, hYear, if_neg hFour, if_neg hBefore, if_neg hFour, if_neg hBefore]
  · rintro ⟨hYear, hMonth, hKept⟩
    rw [hYear, hMonth, hKept]

end Date

/-- A text without the spaces at its end. -/
def Text.withoutEndSpaces (text : String) : String :=
  String.ofList (text.toList.rdropWhile (· == ' '))

theorem Text.withoutEndSpaces_of_isBlank {text : String}
    (h : ∀ c ∈ text.toList, isBlank c = false) : withoutEndSpaces text = text := by
  have hKeep : text.toList.rdropWhile (· == ' ') = text.toList := by
    refine List.rdropWhile_eq_self_iff.mpr fun hNe hLast => ?_
    have hBlank := h _ (List.getLast_mem hNe)
    rw [beq_iff_eq.mp hLast] at hBlank
    exact absurd hBlank (by decide)
  rw [withoutEndSpaces, hKeep, String.ofList_toList]

namespace Date

/-- A text in a column of dates is read as a date. -/
theorem toCell_string (text : String) :
    (Json.string text).toCell .date =
      match ofChars text.toList with
      | .ok date => .ok (some (.date date))
      | .error fault => failure (.invalidDate text fault) := by
  show (do .ok (some (← (do .ok (Value.date (← (Json.string text).toDate)))))) = _
  rw [Json.toDate, Json.toText, ok_bind]
  cases ofChars text.toList <;> rfl

/-- What is read from a field is the date that it still names. -/
theorem toCell_field (d : Date) :
    (Json.string d.field).toCell .date =
      match ofParts? d.year d.month d.keptDay with
      | some read => .ok (some (.date read))
      | none => failure (.invalidDate d.field (cutFault d.year)) := by
  rw [toCell_string, toList_field, ofChars_take]
  cases ofParts? d.year d.month d.keptDay <;> rfl

/-- A field names its own date if it keeps the whole day. -/
theorem ofParts?_keptDay_iff (d : Date) :
    ofParts? d.year d.month d.keptDay = some d ↔ 0 ≤ d.year ∧ d.year ≤ 9999 := by
  have hDay := (month_and_day_le d.valid).2.2.1
  rw [ofParts?_eq_some_iff, keptDay]
  split_ifs with hFour hBefore
  · exact iff_of_true ⟨rfl, rfl, rfl⟩ hFour
  · exact iff_of_false (fun h => by omega) hFour
  · exact iff_of_false (fun h => by omega) hFour

/-- A date is read from its own text, but from its field only in a year of four digits. The field
holds the first ten characters of the text. What is read from it in other years is the date that is
left, or a fault if none is; and two dates have one field if it keeps the same of both. -/
theorem field_is_read_back_iff (d : Date) :
    ColumnLayout.date.format (some (.date d)) = .ok (.single d.field) ∧
      d.field.toList = d.text.toList.take 10 ∧ Text.width d.field = 10 ∧
      (Json.string d.text).toCell .date = .ok (some (.date d)) ∧
      ((Json.string (Text.withoutEndSpaces d.field)).toCell .date = .ok (some (.date d)) ↔
        0 ≤ d.year ∧ d.year ≤ 9999) ∧
      ((Json.string (Text.withoutEndSpaces d.field)).toCell .date =
        match ofParts? d.year d.month d.keptDay with
        | some read => .ok (some (.date read))
        | none => failure (.invalidDate d.field (cutFault d.year))) ∧
      ∀ other : Date, other.field = d.field ↔
        other.year = d.year ∧ other.month = d.month ∧ other.keptDay = d.keptDay := by
  have hNoBlank : ∀ c ∈ d.field.toList, Text.isBlank c = false := by
    intro c hMem
    rw [toList_field] at hMem
    exact isBlank_of_mem_chars (List.mem_of_mem_take hMem)
  rw [Text.withoutEndSpaces_of_isBlank hNoBlank]
  refine ⟨rfl, by rw [toList_field, toList_text], Text.width_fit _ _, ?_, ?_, toCell_field d,
    field_eq_iff d⟩
  · rw [toCell_string, toList_text, ofChars_chars]
  · rw [toCell_field, ← ofParts?_keptDay_iff]
    cases hRead : ofParts? d.year d.month d.keptDay with
    | none => simp [failure]
    | some read => simp

/-- The seventeenth of March of the year -5 is shown as the first, and so is the eighteenth. -/
theorem day_before_year_zero_is_cut :
    let day : Date := ⟨-5, 3, 17, by decide⟩
    let next : Date := ⟨-5, 3, 18, by decide⟩
    let first : Date := ⟨-5, 3, 1, by decide⟩
    day.field.toList = "-0005-03-1".toList ∧ next.field = day.field ∧
      (Json.string (Text.withoutEndSpaces day.field)).toCell .date = .ok (some (.date first)) := by
  intro day next first
  obtain ⟨-, hText, -, -, -, hRead, hSame⟩ := field_is_read_back_iff day
  have hFirst : ofParts? day.year day.month day.keptDay = some first :=
    ofParts?_eq_some_iff.mpr ⟨rfl, rfl, by decide⟩
  refine ⟨?_, (hSame next).mpr ⟨rfl, rfl, by decide⟩, ?_⟩
  · rw [hText]
    decide +kernel
  · rw [hRead, hFirst]

end Date

end Tabular
