import Tabular.Json.Basic
import Tabular.Json.Kind

/-!
Reading JSON values, and the commas, colons and brackets between them. Arrays and objects may be
nested 127 deep; what is passed over has no such limit.
-/

namespace Tabular.Json

namespace Cursor

/-- Look for the next element of an array, `first` if none has been read. The answer is whether
there is one, and its place or that of the closing bracket. -/
def nextElement (first : Bool) (c : Cursor) : Except Fault (Bool × Cursor) :=
  let c := c.skipBlanks
  match c.rest with
  | [] => .error (c.faultNext .eofInList)
  | ']' :: _ => .ok (false, c)
  | ',' :: _ =>
      if first then .ok (true, c)
      else
        let c := c.next.skipBlanks
        match c.rest with
        | [] => .error (c.faultNext .eofInValue)
        | ']' :: _ => .error (c.faultNext .trailingComma)
        | _ => .ok (true, c)
  | _ => if first then .ok (true, c) else .error (c.faultNext .expectedCommaOrBracket)

/-- Close an array. -/
def closeArray (c : Cursor) : Except Fault Cursor :=
  let c := c.skipBlanks
  match c.rest with
  | [] => .error (c.faultNext .eofInList)
  | ']' :: _ => .ok c.next
  | ',' :: _ =>
      let c := c.next.skipBlanks
      .error (c.faultNext (if c.peek? = some ']' then .trailingComma else .trailingCharacters))
  | _ => .error (c.faultNext .trailingCharacters)

/-- Look for the next member of an object, `first` if none has been read. The answer is whether
there is one, and the place of its name or of the closing brace. -/
def nextMember (first : Bool) (c : Cursor) : Except Fault (Bool × Cursor) :=
  let c := c.skipBlanks
  match c.rest with
  | [] => .error (c.faultNext .eofInObject)
  | '\x7d' :: _ => .ok (false, c)
  | x :: _ =>
      if first then
        if x = '"' then .ok (true, c) else .error (c.faultNext .keyNotString)
      else if x = ',' then
        let c := c.next.skipBlanks
        match c.rest with
        | [] => .error (c.faultNext .eofInValue)
        | '"' :: _ => .ok (true, c)
        | '\x7d' :: _ => .error (c.faultNext .trailingComma)
        | _ => .error (c.faultNext .keyNotString)
      else .error (c.faultNext .expectedCommaOrBrace)

/-- Read the colon between a member's name and its value. -/
def colon (c : Cursor) : Except Fault Cursor :=
  let c := c.skipBlanks
  match c.rest with
  | [] => .error (c.faultNext .eofInObject)
  | ':' :: _ => .ok c.next
  | _ => .error (c.faultNext .expectedColon)

/-- Read the elements of an array that have not been read, at most `fuel`, and its closing
bracket. -/
def elementsWithin {α : Type} (read : Cursor → Except Fault (α × Cursor)) (first : Bool) :
    Nat → Cursor → Except Fault (List α × Cursor)
  | 0, c => .error (c.faultHere .eofInList)
  | fuel + 1, c => do
      match ← c.nextElement first with
      | (false, c) => .ok ([], c.next)
      | (true, c) =>
          let (element, c) ← read c
          let (elements, c) ← elementsWithin read false fuel c
          .ok (element :: elements, c)

/-- Read the elements of an array whose opening bracket has been read. Every element takes at least
one character, so the text's length bounds their number. -/
def elements {α : Type} (read : Cursor → Except Fault (α × Cursor)) (c : Cursor) :
    Except Fault (List α × Cursor) :=
  c.elementsWithin read true (c.rest.length + 1)

/-- Read the members of an object after the first, at most `fuel`, and its closing brace. Of members
of one name the last is kept. -/
def membersWithin (read : Cursor → Except Fault (Json × Cursor)) :
    Nat → Cursor → List (String × Json) → Except Fault (List (String × Json) × Cursor)
  | 0, c, _ => .error (c.faultHere .eofInObject)
  | fuel + 1, c, members => do
      match ← c.nextMember false with
      | (false, c) => .ok (members, c.next)
      | (true, c) =>
          let (name, c) ← c.next.stringRest
          let c ← c.colon
          let (value, c) ← read c
          membersWithin read fuel c (insertMember name value members)

/-- Close an object. -/
def closeObject (c : Cursor) : Except Fault Cursor :=
  let c := c.skipBlanks
  match c.rest with
  | [] => .error (c.faultNext .eofInObject)
  | '\x7d' :: _ => .ok c.next
  | ',' :: _ => .error (c.faultNext .trailingComma)
  | _ => .error (c.faultNext .trailingCharacters)

/-- Read an object whose opening brace has been read. If its first member is named `numberName` the
object is that number, and has no other member. -/
def object (read : Cursor → Except Fault (Json × Cursor)) (c : Cursor) :
    Except Fault (Json × Cursor) := do
  match ← c.nextMember true with
  | (false, c) => .ok (.object [], c.next)
  | (true, c) =>
      let (name, c) ← c.next.stringRest
      let c ← c.colon
      if name = numberName then
        let (literal, c) ← c.numberString
        .ok (.number (String.ofList literal), ← c.closeObject)
      else
        let (value, c) ← read c
        let (members, c) ← c.membersWithin read (c.rest.length + 1) [(name, value)]
        .ok (.object members, c)

/-- Read a value in which arrays and objects are nested at most `depth` deep. -/
def value (depth : Nat) (c : Cursor) : Except Fault (Json × Cursor) :=
  let c := c.skipBlanks
  match c.rest with
  | [] => .error (c.faultNext .eofInValue)
  | x :: _ =>
      if x = 'n' then do .ok (.null, ← c.next.word ['u', 'l', 'l'])
      else if x = 't' then do .ok (.bool true, ← c.next.word ['r', 'u', 'e'])
      else if x = 'f' then do .ok (.bool false, ← c.next.word ['a', 'l', 's', 'e'])
      else if x = '-' ∨ x.isDigit then do
        let (literal, c) ← c.number
        .ok (.number (String.ofList literal), c)
      else if x = '"' then do
        let (text, c) ← c.next.stringRest
        .ok (.string text, c)
      else if x = '[' ∨ x = '\x7b' then
        match depth with
        | 0 => .error (c.faultNext .tooDeep)
        | depth + 1 =>
            if x = '[' then do
              let (elements, c) ← c.next.elements (value depth)
              .ok (.array elements, c)
            else c.next.object (value depth)
      else .error (c.faultNext .expectedValue)

/-- Only blanks may follow. -/
def finish (c : Cursor) : Except Fault Unit :=
  let c := c.skipBlanks
  if c.rest.isEmpty then .ok () else .error (c.faultNext .trailingCharacters)

/-- How many arrays and objects may be open at once. -/
def maxDepth : Nat := 127

/-- Pass over a value that is neither an array nor an object. -/
def skipScalar (x : Char) (c : Cursor) : Except Fault Cursor :=
  if x = 'n' then c.next.word ['u', 'l', 'l']
  else if x = 't' then c.next.word ['r', 'u', 'e']
  else if x = 'f' then c.next.word ['a', 'l', 's', 'e']
  else if x = '-' ∨ x.isDigit then c.skipNumber
  else if x = '"' then c.next.skipStringRest
  else .error (c.faultNext .expectedValue)

/-- The bracket that is open: that of an array or that of an object. -/
inductive Bracket where
  | square
  | brace
  deriving DecidableEq, Repr

/-- The character that closes a bracket. -/
def Bracket.closing : Bracket → Char
  | square => ']'
  | brace => '\x7d'

/-- The reason why a text may not end inside a bracket. -/
def Bracket.unclosed : Bracket → Reason
  | square => .eofInList
  | brace => .eofInObject

/-- The reason why nothing but a comma may follow a value inside a bracket, if it stays open. -/
def Bracket.expected : Bracket → Reason
  | square => .expectedCommaOrBracket
  | brace => .expectedCommaOrBrace

/-- Pass over a member's name and its colon. -/
def skipName (c : Cursor) : Except Fault Cursor := do
  let c := c.skipBlanks
  match c.rest with
  | [] => .error (c.faultNext .eofInObject)
  | '"' :: _ => (← c.next.skipStringRest).colon
  | _ => .error (c.faultNext .keyNotString)

mutual

/-- Pass over a value inside the brackets `enclosing`, innermost first, and over all that closes
them. -/
def skipWithin : Nat → List Bracket → Cursor → Except Fault Cursor
  | 0, _, c => .error (c.faultHere .eofInValue)
  | fuel + 1, enclosing, c =>
      let c := c.skipBlanks
      match c.rest with
      | [] => .error (c.faultNext .eofInValue)
      | '[' :: _ => skipBetween fuel false (.square :: enclosing) c.next
      | '\x7b' :: _ => skipBetween fuel false (.brace :: enclosing) c.next
      | x :: _ => do skipBetween fuel true enclosing (← c.skipScalar x)

/-- Pass over what stands between two values: closing brackets, then a comma (`comma` if one may
stand here) and a member's name. -/
def skipBetween : Nat → Bool → List Bracket → Cursor → Except Fault Cursor
  | _, _, [], c => .ok c
  | 0, _, _, c => .error (c.faultHere .eofInValue)
  | fuel + 1, comma, bracket :: enclosing, c =>
      let c := c.skipBlanks
      let enter (c : Cursor) : Except Fault Cursor := do
        match bracket with
        | .square => skipWithin fuel (bracket :: enclosing) c
        | .brace => skipWithin fuel (bracket :: enclosing) (← c.skipName)
      match c.rest with
      | [] => .error (c.faultNext bracket.unclosed)
      | x :: _ =>
          if comma && x = ',' then enter c.next
          else if x = bracket.closing then skipBetween fuel true enclosing c.next
          else if comma then .error (c.faultNext bracket.expected)
          else enter c

end

/-- Pass over a value of any depth. Every second step takes a character of the text, so twice its
length bounds the number of steps. -/
def skipValue (c : Cursor) : Except Fault Cursor :=
  skipWithin (2 * c.rest.length + 2) [] c

end Cursor

/-- Read a text that is one JSON value. -/
def parse (text : String) : Except Fault Json := do
  let (value, c) ← (Cursor.start text).value Cursor.maxDepth
  c.finish
  .ok value

end Tabular.Json
