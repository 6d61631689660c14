/-!
JSON values. A number is kept as the text it was written in, so that no digit of it is lost.
-/

namespace Tabular

/-- A JSON value. The members of an object have distinct names in ascending order. -/
inductive Json where
  | null
  | bool (value : Bool)
  | number (literal : String)
  | string (value : String)
  | array (elements : List Json)
  | object (members : List (String × Json))

namespace Json

/-- The name of the member that makes an object stand for a number: its value is a string that
spells the number, so that no reader on the way can lose a digit of it. -/
def numberName : String := "$serde_json::private::Number"

/-- The members of an object with one more. A member of the same name is replaced. -/
def insertMember (name : String) (value : Json) : List (String × Json) → List (String × Json)
  | [] => [(name, value)]
  | member :: rest =>
      if name < member.1 then (name, value) :: member :: rest
      else if name = member.1 then (name, value) :: rest
      else member :: insertMember name value rest

/-- The member of that name, if the value is an object that has one. -/
def member? (name : String) : Json → Option Json
  | object members => members.lookup name
  | _ => none

/-- The text of a JSON string. -/
def string? : Json → Option String
  | string value => some value
  | _ => none

end Json

end Tabular
