/-!
A place in a text that is being read as JSON, and the faults found there. Places are counted in
lines from 1 and in bytes of UTF-8 from the start of the line.
-/

namespace Tabular.Json

/-- What is wrong with a text that should be JSON of a certain shape. -/
inductive Reason where
  | eofInValue
  | eofInList
  | eofInObject
  | eofInString
  | expectedValue
  | expectedWord
  | expectedColon
  | expectedCommaOrBrace
  | expectedCommaOrBracket
  | keyNotString
  | trailingComma
  | trailingCharacters
  | invalidNumber
  | invalidEscape
  | unfinishedSurrogate
  | loneSurrogate
  | controlCharacter
  | tooDeep
  | missingField (name : String)
  | duplicateField (name : String)
  | wrongType (found expected : String)
  | wrongLength (found : Nat) (expected : String)
  deriving DecidableEq, Repr

/-- The words for a reason. -/
def Reason.message : Reason → String
  | eofInValue => "EOF while parsing a value"
  | eofInList => "EOF while parsing a list"
  | eofInObject => "EOF while parsing an object"
  | eofInString => "EOF while parsing a string"
  | expectedValue => "expected value"
  | expectedWord => "expected ident"
  | expectedColon => "expected `:`"
  | expectedCommaOrBrace => "expected `,` or `\x7d`"
  | expectedCommaOrBracket => "expected `,` or `]`"
  | keyNotString => "key must be a string"
  | trailingComma => "trailing comma"
  | trailingCharacters => "trailing characters"
  | invalidNumber => "invalid number"
  | invalidEscape => "invalid escape"
  | unfinishedSurrogate => "unexpected end of hex escape"
  | loneSurrogate => "lone leading surrogate in hex escape"
  | controlCharacter => "control character (\\u0000-\\u001F) found while parsing a string"
  | tooDeep => "recursion limit exceeded"
  | missingField name => "missing field `" ++ name ++ "`"
  | duplicateField name => "duplicate field `" ++ name ++ "`"
  | wrongType found expected => "invalid type: " ++ found ++ ", expected " ++ expected
  | wrongLength found expected =>
      "invalid length " ++ toString found ++ ", expected " ++ expected

/-- A fault and its place. -/
structure Fault where
  reason : Reason
  line : Nat
  column : Nat
  deriving DecidableEq, Repr

/-- The words for a fault and its place. -/
def Fault.message (fault : Fault) : String :=
  fault.reason.message ++ " at line " ++ toString fault.line ++ " column " ++ toString fault.column

/-- A place in a text: what follows it, its line, and the bytes of that line before it. -/
structure Cursor where
  rest : List Char
  line : Nat
  column : Nat

/-- The start of a text. -/
def Cursor.start (text : String) : Cursor :=
  ⟨text.toList, 1, 0⟩

namespace Cursor

/-- The next character. -/
def peek? (c : Cursor) : Option Char :=
  c.rest.head?

/-- The place after the next character. The end of the text is its own successor. -/
def next (c : Cursor) : Cursor :=
  match c.rest with
  | [] => c
  | '\n' :: rest => ⟨rest, c.line + 1, 0⟩
  | x :: rest => ⟨rest, c.line, c.column + x.utf8Size⟩

/-- The place after the characters that satisfy `p`, and those characters. -/
def takeWhile (p : Char → Bool) (c : Cursor) : List Char × Cursor :=
  let taken := c.rest.takeWhile p
  (taken, taken.foldl (fun place _ => place.next) c)

/-- JSON knows four blank characters. -/
def isBlank (x : Char) : Bool :=
  x == ' ' || x == '\n' || x == '\t' || x == '\r'

/-- The place of the next character that is not blank. -/
def skipBlanks (c : Cursor) : Cursor :=
  (c.takeWhile isBlank).2

/-- Line and column of the place some bytes further on. The place may lie within a character, but
not behind the end of the text. -/
def bytesOn (line column : Nat) : List Char → Nat → Nat × Nat
  | [], _ => (line, column)
  | x :: rest, bytes =>
      if bytes < x.utf8Size then (line, column + bytes)
      else if x = '\n' then bytesOn (line + 1) 0 rest (bytes - x.utf8Size)
      else bytesOn line (column + x.utf8Size) rest (bytes - x.utf8Size)

/-- A fault some bytes behind the place. -/
def faultAfter (c : Cursor) (bytes : Nat) (reason : Reason) : Fault :=
  let place := bytesOn c.line c.column c.rest bytes
  ⟨reason, place.1, place.2⟩

/-- A fault that lies behind the place as a whole. -/
def faultHere (c : Cursor) (reason : Reason) : Fault :=
  c.faultAfter 0 reason

/-- A fault in the next character, counted behind its first byte. -/
def faultNext (c : Cursor) (reason : Reason) : Fault :=
  c.faultAfter 1 reason

end Cursor

end Tabular.Json
