import Tabular.Date.Basic

/-!
The text of a date: year, month and day with hyphens between them.
-/

namespace Tabular.Date

/-- A number in decimal digits, with zeros in front up to `size` digits. -/
def paddedDigits (size number : Nat) : List Char :=
  (Nat.toDigits 10 number).leftpad size '0'

/-- The year in at least four digits. A year of more digits or before the year 0 has a sign, so that
it is told apart from a year that runs on into the month. -/
def yearChars (year : Int) : List Char :=
  (if year < 0 then ['-'] else if 9999 < year then ['+'] else []) ++ paddedDigits 4 year.natAbs

/-- The characters of the date's text. -/
def chars (d : Date) : List Char :=
  yearChars d.year ++ '-' :: paddedDigits 2 d.month ++ '-' :: paddedDigits 2 d.day

/-- The date's text. -/
def text (d : Date) : String :=
  String.ofList d.chars

@[simp] theorem toList_text (d : Date) : d.text.toList = d.chars := by
  simp [text]

end Tabular.Date
