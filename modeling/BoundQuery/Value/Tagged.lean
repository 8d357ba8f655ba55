import BoundQuery.Value
import BoundQuery.Json.Embedded
import BoundQuery.Time.Relaxed

/-!
# Tagged form of values

A value is written as an object whose only key names the kind, and null as that name alone. The
reader is laxer than the writer: dates and time stamps follow the relaxed grammar, a float may
be an integer, null may have a payload of null, and a JSON payload may hold embedded texts.
-/

namespace BoundQuery.Value

/-- An object with one member. -/
def tag (name : String) (payload : Json) : Json := .object [(name, payload)]

mutual
/-- The tagged form of a value. A float that is no finite number has the payload null. -/
def toTagged : Value → Json
  | text s => tag "Text" (.string s)
  | integer i => tag "Integer" (.integer (.ofInt32 i))
  | bigInt i => tag "BigInt" (.integer (.ofInt64 i))
  | float x => tag "Float" (.ofBinary64 x)
  | boolean b => tag "Boolean" (.bool b)
  | uuid u => tag "Uuid" (.string (String.ofList u.text))
  | date d => tag "Date" (.string (String.ofList d.text))
  | timestamp t => tag "Timestamp" (.string (String.ofList t.zuluText))
  | json v => tag "Json" v
  | list items => tag "List" (.array (toTaggedItems items))
  | null => .string "Null"

def toTaggedItems : List Value → List Json
  | [] => []
  | v :: vs => toTagged v :: toTaggedItems vs
end

/-- The compact text of the tagged form. -/
def taggedText (v : Value) : String := v.toTagged.text

def int32? (i : WideInt) : Option Int32 :=
  if -0x80000000 ≤ i.val ∧ i.val < 0x80000000 then some (Int32.ofInt i.val) else none

def int64? (i : WideInt) : Option Int64 :=
  if i.val < 0x8000000000000000 then some (Int64.ofInt i.val) else none

/-- The value of a payload that holds no other value, by the name of its kind. -/
def ofScalarPayload? : String → Json → Option Value
  | "Text", .string s => some (text s)
  | "Integer", .integer i => (int32? i).map integer
  | "BigInt", .integer i => (int64? i).map bigInt
  | "Float", .number x => some (float (.finite x))
  | "Float", .integer i => some (float (Binary64.ofInt i.val))
  | "Boolean", .bool b => some (boolean b)
  | "Uuid", .string s => (Uuid.ofText? s.toList).map uuid
  | "Date", .string s => (Time.ofRelaxedDate? s.toList).map date
  | "Timestamp", .string s => (Time.ofRelaxed? s.toList).map timestamp
  | "Json", v => v.resolved?.map json
  | "Null", .null => some null
  | _, _ => none

mutual
/-- The value of a tagged form whose members stand in the order of the text. -/
def ofTagged? : Json → Option Value
  | .string s => if s = "Null" then some null else none
  | .object [(name, payload)] => ofPayload? name payload
  | _ => none

def ofPayload? (name : String) : Json → Option Value
  | .array items =>
    if name = "List" then (ofTaggedItems? items).map list
    else ofScalarPayload? name (.array items)
  | payload => ofScalarPayload? name payload

def ofTaggedItems? : List Json → Option (List Value)
  | [] => some []
  | item :: items =>
    match ofTagged? item, ofTaggedItems? items with
    | some v, some vs => some (v :: vs)
    | _, _ => none
end

/-- Reads a whole text in tagged form. -/
def ofTaggedText? (text : String) : Option Value := (Json.ofSource? text).bind ofTagged?

end BoundQuery.Value
