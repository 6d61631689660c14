import Tabular.Json.Basic

/-!
The text of a JSON value without any blanks.
-/

namespace Tabular.Json

/-- Two hexadecimal digits of a number below 256. -/
def hexPair (n : Nat) : List Char :=
  (Nat.toDigits 16 n).leftpad 2 '0'

/-- One character inside a JSON string. Only quotes, backslashes and control characters are
escaped. -/
def escapeChar (c : Char) : List Char :=
  if c = '"' then ['\\', '"']
  else if c = '\\' then ['\\', '\\']
  else if c = '\x08' then ['\\', 'b']
  else if c = '\x0c' then ['\\', 'f']
  else if c = '\n' then ['\\', 'n']
  else if c = '\r' then ['\\', 'r']
  else if c = '\t' then ['\\', 't']
  else if c.toNat < 0x20 then ['\\', 'u', '0', '0'] ++ hexPair c.toNat
  else [c]

/-- A JSON string. -/
def stringText (value : String) : String :=
  String.ofList ('"' :: value.toList.flatMap escapeChar ++ ['"'])

mutual

/-- The text of a value. -/
def text : Json → String
  | null => "null"
  | bool true => "true"
  | bool false => "false"
  | number literal => literal
  | string value => stringText value
  | array elements => "[" ++ String.intercalate "," (elementTexts elements) ++ "]"
  | object members => "\x7b" ++ String.intercalate "," (memberTexts members) ++ "\x7d"

/-- The texts of the elements of an array. -/
def elementTexts : List Json → List String
  | [] => []
  | element :: rest => text element :: elementTexts rest

/-- The texts of the members of an object. -/
def memberTexts : List (String × Json) → List String
  | [] => []
  | (name, value) :: rest => (stringText name ++ ":" ++ text value) :: memberTexts rest

end

end Tabular.Json
