import Tabular.Date.Basic
import Tabular.Text.Blank

/-!
Reading a date: year, month and day with hyphens between them. Blanks are allowed before each of the
three numbers and nowhere else. The first thing that is wrong, from the left, is reported.
-/

namespace Tabular.Date

/-- What is wrong with the text of a date. -/
inductive Fault where
  | tooShort
  | invalidCharacter
  | trailing
  | outOfRange
  deriving DecidableEq, Repr

/-- The words for a fault. -/
def Fault.message : Fault → String
  | tooShort => "premature end of input"
  | invalidCharacter => "input contains invalid characters"
  | trailing => "trailing input"
  | outOfRange => "input is out of range"

/-- Read decimal digits, at least one and at most `limit`, and what follows them. -/
def readDigits (limit : Nat) (cs : List Char) : Except Fault (Nat × List Char) :=
  let digits := (cs.take limit).takeWhile Char.isDigit
  if cs.isEmpty then .error .tooShort
  else if digits.isEmpty then .error .invalidCharacter
  else .ok (Nat.ofDigitChars 10 digits 0, cs.drop digits.length)

/-- Read a number of one or two digits that must lie between `low` and `high`. -/
def readNumber (low high : Nat) (cs : List Char) : Except Fault (Nat × List Char) := do
  let (number, rest) ← readDigits 2 (Text.trimStart cs)
  if low ≤ number ∧ number ≤ high then .ok (number, rest) else .error .outOfRange

/-- A year that 32 bits can hold. -/
def yearInRange (year : Int) (rest : List Char) : Except Fault (Int × List Char) :=
  if -2147483648 ≤ year ∧ year < 2147483648 then .ok (year, rest) else .error .outOfRange

/-- Read a year. Only a signed year may have more than four digits. -/
def readYear (cs : List Char) : Except Fault (Int × List Char) :=
  match Text.trimStart cs with
  | '-' :: rest => do
      let (number, rest) ← readDigits rest.length rest
      yearInRange (-number) rest
  | '+' :: rest => do
      let (number, rest) ← readDigits rest.length rest
      yearInRange number rest
  | rest => do
      let (number, rest) ← readDigits 4 rest
      yearInRange number rest

/-- Read a hyphen. -/
def readHyphen : List Char → Except Fault (List Char)
  | [] => .error .tooShort
  | '-' :: rest => .ok rest
  | _ => .error .invalidCharacter

/-- Read a date. -/
def ofChars (cs : List Char) : Except Fault Date := do
  let (year, rest) ← readYear cs
  let rest ← readHyphen rest
  let (month, rest) ← readNumber 1 12 rest
  let rest ← readHyphen rest
  let (day, rest) ← readNumber 1 31 rest
  if !rest.isEmpty then .error .trailing
  else
    match ofParts? year month day with
    | some date => .ok date
    | none => .error .outOfRange

end Tabular.Date
