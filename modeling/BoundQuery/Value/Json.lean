import BoundQuery.Value
import BoundQuery.Time.Strict

/-!
# Values and JSON

A JSON string that is a strict time stamp or a UUID becomes a value of that kind, an array
becomes a list, and an object stays as it is. Each value has a JSON image.
-/

namespace BoundQuery.Value

/-- The kind of value that a string stands for. -/
def ofString (s : String) : Value :=
  match Time.ofStrict? s.toList with
  | some t => timestamp t
  | none =>
    match Uuid.ofText? s.toList with
    | some u => uuid u
    | none => text s

/-- The narrowest kind that holds an integer; beyond 63 bits the nearest double. -/
def ofWideInt (i : WideInt) : Value :=
  if -0x80000000 ≤ i.val ∧ i.val < 0x80000000 then integer (Int32.ofInt i.val)
  else if i.val < 0x8000000000000000 then bigInt (Int64.ofInt i.val)
  else float (Binary64.ofInt i.val)

mutual
/-- The value closest to a JSON value. -/
def ofJson : Json → Value
  | .null => null
  | .bool b => boolean b
  | .integer i => ofWideInt i
  | .number x => float (.finite x)
  | .string s => ofString s
  | .array items => list (ofJsonItems items)
  | .object members => json (.object members)

def ofJsonItems : List Json → List Value
  | [] => []
  | item :: items => ofJson item :: ofJsonItems items
end

mutual
/-- The JSON image of a value. -/
def toJson : Value → Json
  | text s => .string s
  | integer i => .integer (.ofInt32 i)
  | bigInt i => .integer (.ofInt64 i)
  | float x => .ofBinary64 x
  | boolean b => .bool b
  | uuid u => .string (String.ofList u.text)
  | date d => .string (String.ofList d.text)
  | timestamp t => .string (String.ofList t.numericText)
  | json v => v
  | list items => .array (toJsonItems items)
  | null => .null

def toJsonItems : List Value → List Json
  | [] => []
  | v :: vs => toJson v :: toJsonItems vs
end

end BoundQuery.Value
