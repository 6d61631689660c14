import Tabular.Json.Cursor

/-!
The words, numbers and strings of JSON. Each is read in full, or only checked and passed over where
nobody asks for its content; passing over a string forgives surrogates without a partner.
-/

namespace Tabular.Json

namespace Cursor

/-- Read the letters of a word. -/
def word (c : Cursor) : List Char → Except Fault Cursor
  | [] => .ok c
  | letter :: letters =>
      match c.rest with
      | [] => .error (c.faultHere .eofInValue)
      | x :: _ =>
          if x = letter then c.next.word letters else .error (c.faultNext .expectedWord)

/-- The digits that follow, and the place after them. -/
def digits (c : Cursor) : List Char × Cursor :=
  c.takeWhile Char.isDigit

/-- Read one digit and those after it. A character that is no digit is a fault, which is placed
`reach` bytes on. -/
def someDigits (reach : Nat) (c : Cursor) : Except Fault (List Char × Cursor) :=
  match c.rest with
  | [] => .error (c.faultHere .eofInValue)
  | x :: _ => if x.isDigit then .ok c.digits else .error (c.faultAfter reach .invalidNumber)

/-- Read the digits before the point: no zero may stand in front of another digit. -/
def wholeNumber (reach : Nat) (c : Cursor) : Except Fault (List Char × Cursor) := do
  let (digits, after) ← c.someDigits reach
  if digits.head? = some '0' ∧ digits.length ≠ 1 then .error (c.next.faultNext .invalidNumber)
  else .ok (digits, after)

/-- Read what may follow the digits of a number: a point and more digits. -/
def fraction (c : Cursor) : Except Fault (List Char × Cursor) :=
  match c.rest with
  | '.' :: _ => do
      let (digits, after) ← c.next.someDigits 1
      .ok ('.' :: digits, after)
  | _ => .ok ([], c)

/-- Read the exponent of a number, if there is one. It is written with a small letter and a sign. -/
def exponent (reach : Nat) (c : Cursor) : Except Fault (List Char × Cursor) :=
  if c.peek? = some 'e' ∨ c.peek? = some 'E' then do
    let mark := c.next
    let (sign, start) :=
      match mark.rest with
      | '+' :: _ => ('+', mark.next)
      | '-' :: _ => ('-', mark.next)
      | _ => ('+', mark)
    let (digits, after) ← start.someDigits reach
    .ok ('e' :: sign :: digits, after)
  else .ok ([], c)

/-- Read a number whose sign has been read. Its digits are kept as they are written. -/
def unsignedNumber (reach : Nat) (c : Cursor) : Except Fault (List Char × Cursor) := do
  let (whole, c) ← c.wholeNumber reach
  let (fraction, c) ← c.fraction
  let (exponent, c) ← c.exponent reach
  .ok (whole ++ fraction ++ exponent, c)

/-- Read a number. Where a digit must follow a sign or the mark of the exponent and does not, the
fault is placed `reach` bytes on. -/
def numberReaching (reach : Nat) (c : Cursor) : Except Fault (List Char × Cursor) :=
  match c.rest with
  | '-' :: _ => do
      let (digits, c) ← c.next.unsignedNumber reach
      .ok ('-' :: digits, c)
  | _ => c.unsignedNumber reach

/-- Read a number. -/
def number (c : Cursor) : Except Fault (List Char × Cursor) :=
  c.numberReaching 1

/-- Read a number that is all that is left of the text. Whatever else stands there is a fault, and
since nothing may follow the number, a wrong character is looked at together with the one after
it. -/
def onlyNumber (c : Cursor) : Except Fault (List Char) :=
  match c.rest with
  | [] => .error (c.faultHere .eofInValue)
  | x :: _ =>
      if x = '-' ∨ x.isDigit then do
        let (literal, c) ← c.numberReaching 2
        if c.rest.isEmpty then .ok literal else .error (c.faultNext .invalidNumber)
      else .error (c.faultNext .invalidNumber)

/-- Pass over a number. It is the same grammar; a number that ends too early is called invalid, not
unfinished. -/
def skipNumber (c : Cursor) : Except Fault Cursor :=
  match c.number with
  | .ok (_, after) => .ok after
  | .error fault =>
      if fault.reason = .eofInValue then .error { fault with reason := .invalidNumber }
      else .error fault

/-- The value of a hexadecimal digit. -/
def hexDigit? (x : Char) : Option Nat :=
  if x.isDigit then some (x.toNat - '0'.toNat)
  else if 'a' ≤ x ∧ x ≤ 'f' then some (x.toNat - 'a'.toNat + 10)
  else if 'A' ≤ x ∧ x ≤ 'F' then some (x.toNat - 'A'.toNat + 10)
  else none

/-- Read four hexadecimal digits. The fault is placed behind the four bytes that should have been
digits. -/
def hexUnit (c : Cursor) : Except Fault (Nat × Cursor) :=
  let digits := c.rest.take 4
  if digits.foldl (fun bytes x => bytes + x.utf8Size) 0 < 4 then .error (c.faultAfter 4 .eofInString)
  else
    match digits.mapM hexDigit? with
    | some digits => .ok (digits.foldl (16 * · + ·) 0, c.next.next.next.next)
    | none => .error (c.faultAfter 4 .invalidEscape)

/-- Read one given character inside an escape. -/
def expectEscape (c : Cursor) (expected : Char) : Except Fault Cursor :=
  match c.rest with
  | [] => .error (c.faultHere .eofInString)
  | x :: _ => if x = expected then .ok c.next else .error (c.faultNext .unfinishedSurrogate)

/-- Read the character that `\u` announces. A character outside the basic plane takes two escapes,
a leading and a trailing surrogate. -/
def unicodeEscape (c : Cursor) : Except Fault (Char × Cursor) := do
  let (unit, c) ← c.hexUnit
  if 0xDC00 ≤ unit ∧ unit ≤ 0xDFFF then .error (c.faultHere .loneSurrogate)
  else if 0xD800 ≤ unit ∧ unit ≤ 0xDBFF then
    let c ← c.expectEscape '\\'
    let c ← c.expectEscape 'u'
    let (trail, c) ← c.hexUnit
    if 0xDC00 ≤ trail ∧ trail ≤ 0xDFFF then
      .ok (Char.ofNat (0x10000 + 0x400 * (unit - 0xD800) + (trail - 0xDC00)), c)
    else .error (c.faultHere .loneSurrogate)
  else .ok (Char.ofNat unit, c)

/-- The character that a letter stands for after a backslash. -/
def escaped? (x : Char) : Option Char :=
  if x = '"' ∨ x = '\\' ∨ x = '/' then some x
  else if x = 'b' then some '\x08'
  else if x = 'f' then some '\x0c'
  else if x = 'n' then some '\n'
  else if x = 'r' then some '\r'
  else if x = 't' then some '\t'
  else none

/-- Read what follows a backslash. -/
def escape (c : Cursor) : Except Fault (Char × Cursor) :=
  match c.rest with
  | [] => .error (c.faultHere .eofInString)
  | x :: _ =>
      if x = 'u' then c.next.unicodeEscape
      else
        match escaped? x with
        | some y => .ok (y, c.next)
        | none => .error (c.faultNext .invalidEscape)

/-- Pass over what follows a backslash. Surrogates need not be paired. -/
def skipEscape (c : Cursor) : Except Fault Cursor :=
  match c.rest with
  | [] => .error (c.faultHere .eofInString)
  | x :: _ =>
      if x = 'u' then c.next.hexUnit.map Prod.snd
      else if (escaped? x).isSome then .ok c.next
      else .error (c.faultNext .invalidEscape)

/-- Read the rest of a string up to its closing quote, at most `fuel` characters of it. -/
def stringWithin : Nat → Cursor → Except Fault (List Char × Cursor)
  | 0, c => .error (c.faultHere .eofInString)
  | fuel + 1, c =>
      match c.rest with
      | [] => .error (c.faultHere .eofInString)
      | '"' :: _ => .ok ([], c.next)
      | '\\' :: _ => do
          let (x, c) ← c.next.escape
          let (xs, c) ← stringWithin fuel c
          .ok (x :: xs, c)
      | x :: _ =>
          if x.toNat < 0x20 then .error (c.faultNext .controlCharacter)
          else do
            let (xs, c) ← stringWithin fuel c.next
            .ok (x :: xs, c)

/-- Read a string whose opening quote has been read. -/
def stringRest (c : Cursor) : Except Fault (String × Cursor) := do
  let (xs, c) ← stringWithin (c.rest.length + 1) c
  .ok (String.ofList xs, c)

/-- Pass over the rest of a string, at most `fuel` characters of it. -/
def skipStringWithin : Nat → Cursor → Except Fault Cursor
  | 0, c => .error (c.faultHere .eofInString)
  | fuel + 1, c =>
      match c.rest with
      | [] => .error (c.faultHere .eofInString)
      | '"' :: _ => .ok c.next
      | '\\' :: _ => do
          let c ← c.next.skipEscape
          skipStringWithin fuel c
      | x :: _ =>
          if x.toNat < 0x20 then .error (c.faultHere .controlCharacter)
          else skipStringWithin fuel c.next

/-- Pass over a string whose opening quote has been read. -/
def skipStringRest (c : Cursor) : Except Fault Cursor :=
  skipStringWithin (c.rest.length + 1) c

end Cursor

end Tabular.Json
