import Tabular.Json.Reader

/-!
Reading JSON values of a known shape: strings, arrays, and records of two fields, which are written
as an object or as an array of the fields in their order. What an object holds besides its fields is
passed over.
-/

namespace Tabular.Json

namespace Cursor

/-- Read an array. -/
def array {α : Type} (read : Cursor → Except Fault (α × Cursor)) (c : Cursor) :
    Except Fault (List α × Cursor) :=
  let c := c.skipBlanks
  match c.rest with
  | '[' :: _ => c.next.elements read
  | _ => .error (c.wrongType "a sequence")

end Cursor

/-- How a record of two fields is read. -/
structure RecordShape (α β : Type) where
  /-- the name of the record in messages -/
  name : String
  firstName : String
  first : Cursor → Except Fault (α × Cursor)
  secondName : String
  second : Cursor → Except Fault (β × Cursor)
  /-- what the second field is where it is missing, if it may be -/
  absent : Option β

namespace RecordShape

variable {α β : Type} (shape : RecordShape α β)

/-- The array that ends at the place has too few elements for the record. -/
def tooShort (found : Nat) (c : Cursor) : Fault :=
  c.next.faultHere (.wrongLength found ("struct " ++ shape.name ++ " with 2 elements"))

/-- Read a record whose opening bracket has been read. -/
def readArray (c : Cursor) : Except Fault ((α × β) × Cursor) := do
  match ← c.nextElement true with
  | (false, c) => .error (shape.tooShort 0 c)
  | (true, c) =>
      let (first, c) ← shape.first c
      match ← c.nextElement false with
      | (true, c) =>
          let (second, c) ← shape.second c
          .ok ((first, second), ← c.closeArray)
      | (false, c) =>
          match shape.absent with
          | some second => .ok ((first, second), c.next)
          | none => .error (shape.tooShort 1 c)

/-- A field whose name ends at the place was there before. The fault is placed at what follows the
name, and behind it if it closes the object. -/
def duplicate (name : String) (c : Cursor) : Fault :=
  let c := c.skipBlanks
  let c := if c.peek? = some '\x7d' then c.next else c
  c.faultHere (.duplicateField name)

/-- Read the members of a record, at most `fuel`, and its closing brace, after the fields read so
far. -/
def readMembers (first? : Option α) (second? : Option β) (isFirst : Bool) :
    Nat → Cursor → Except Fault ((α × β) × Cursor)
  | 0, c => .error (c.faultHere .eofInObject)
  | fuel + 1, c => do
      match ← c.nextMember isFirst with
      | (false, c) =>
          let c := c.next
          match first?, second?.or shape.absent with
          | some first, some second => .ok ((first, second), c)
          | none, _ => .error (c.faultHere (.missingField shape.firstName))
          | _, none => .error (c.faultHere (.missingField shape.secondName))
      | (true, c) =>
          let (name, c) ← c.next.stringRest
          if name = shape.firstName then
            if first?.isSome then .error (duplicate name c)
            else
              let (first, c) ← shape.first (← c.colon)
              readMembers (some first) second? false fuel c
          else if name = shape.secondName then
            if second?.isSome then .error (duplicate name c)
            else
              let (second, c) ← shape.second (← c.colon)
              readMembers first? (some second) false fuel c
          else
            let c ← (← c.colon).skipValue
            readMembers first? second? false fuel c

/-- Read a record. -/
def read (c : Cursor) : Except Fault ((α × β) × Cursor) :=
  let c := c.skipBlanks
  match c.rest with
  | '[' :: _ => shape.readArray c.next
  | '\x7b' :: _ => shape.readMembers none none true (c.rest.length + 1) c.next
  | _ => .error (c.wrongType ("struct " ++ shape.name))

end RecordShape

end Tabular.Json
