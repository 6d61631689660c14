import Tabular.Json.Scanner
import Tabular.Text.Quoted

/-!
What to say where a value of another kind stands than the one that is needed, and the reading of
strings, where this is all that can go wrong beside their text.
-/

namespace Tabular.Json.Cursor

/-- The value at the place is of another kind than `expected`: say of which. Its text is read far
enough to know. -/
def wrongType (c : Cursor) (expected : String) : Fault :=
  let report (c : Cursor) (found : String) : Fault := c.faultHere (.wrongType found expected)
  let wordOr (c : Cursor) (letters : List Char) (found : String) : Fault :=
    match c.next.word letters with
    | .ok c => report c found
    | .error fault => fault
  match c.rest with
  | [] => c.faultNext .eofInValue
  | x :: _ =>
      if x = 'n' then wordOr c ['u', 'l', 'l'] "null"
      else if x = 't' then wordOr c ['r', 'u', 'e'] "boolean `true`"
      else if x = 'f' then wordOr c ['a', 'l', 's', 'e'] "boolean `false`"
      else if x = '-' ∨ x.isDigit then
        match c.number with
        | .ok (literal, c) => report c (numberKind literal)
        | .error fault => fault
      else if x = '"' then
        match c.next.stringRest with
        | .ok (text, c) => report c ("string " ++ Text.quoted text)
        | .error fault => fault
      else if x = '[' then report c "sequence"
      else if x = '\x7b' then report c "map"
      else c.faultNext .expectedValue
where
  /-- Whole numbers that 64 bits can hold, with a sign or without, are named. The negative zero is
  none of them. -/
  numberKind (literal : List Char) : String :=
    let named := "integer `" ++ String.ofList literal ++ "`"
    match literal with
    | '-' :: digits =>
        let magnitude := Nat.ofDigitChars 10 digits 0
        if digits.all Char.isDigit ∧ 0 < magnitude ∧ magnitude ≤ 9223372036854775808 then named
        else "number"
    | digits =>
        let magnitude := Nat.ofDigitChars 10 digits 0
        if digits.all Char.isDigit ∧ magnitude < 18446744073709551616 then named else "number"

/-- Read a string. -/
def string (c : Cursor) : Except Fault (String × Cursor) :=
  let c := c.skipBlanks
  match c.rest with
  | '"' :: _ => c.next.stringRest
  | _ => .error (c.wrongType "a string")

/-- Read a string that spells a number, and nothing else. Faults inside it are placed as if its
content were a text by itself. -/
def numberString (c : Cursor) : Except Fault (List Char × Cursor) :=
  let c := c.skipBlanks
  match c.rest with
  | '"' :: _ => do
      let (text, c) ← c.next.stringRest
      .ok (← (start text).onlyNumber, c)
  | _ => .error (c.wrongType "string containing a number")

end Tabular.Json.Cursor
