import BoundQuery.Json.Writer
import BoundQuery.Time.Instant
import BoundQuery.Uuid

/-!
# Bound values

The closed set of literals that a placeholder can be bound to. A value never becomes part of a
statement's text.
-/

namespace BoundQuery

inductive Value where
  | text (s : String)
  | integer (i : Int32)
  | bigInt (i : Int64)
  | float (x : Binary64)
  | boolean (b : Bool)
  | uuid (u : Uuid)
  | date (d : Date)
  | timestamp (t : Instant)
  | json (v : Json)
  /-- A collection; a statement in positional form lists its items. -/
  | list (items : List Value)
  | null
deriving Inhabited

namespace Value

/-- The short name of the kind, as log lines give it. -/
def kind : Value → String
  | text _ => "text"
  | integer _ => "integer"
  | bigInt _ => "bigint"
  | float _ => "float"
  | boolean _ => "boolean"
  | uuid _ => "uuid"
  | date _ => "date"
  | timestamp _ => "timestamp"
  | json _ => "json"
  | list _ => "list"
  | null => "null"

def isNull : Value → Bool
  | null => true
  | _ => false

/-- The items of a list. -/
def items? : Value → Option (List Value)
  | list items => some items
  | _ => none

/-- A value that may be missing; a missing one is `null`. -/
def ofOption : Option Value → Value
  | some v => v
  | none => null

/-- An integer of 32 bits without sign, as the wider signed kind. -/
def ofUInt32 (n : UInt32) : Value := bigInt (Int64.ofNat n.toNat)

mutual
/-- The value as a person reads it. Text is put in quotes and not escaped. -/
def display : Value → String
  | text s => "'" ++ s ++ "'"
  | integer i => String.ofList (Text.intDigits i.toInt)
  | bigInt i => String.ofList (Text.intDigits i.toInt)
  | float x => x.display
  | boolean b => if b then "true" else "false"
  | uuid u => String.ofList u.text
  | date d => String.ofList d.text
  | timestamp t => String.ofList t.numericText
  | json v => v.text
  | list items => "[" ++ displayItems items ++ "]"
  | null => "NULL"

def displayItems : List Value → String
  | [] => ""
  | [v] => display v
  | v :: w :: vs => display v ++ ", " ++ displayItems (w :: vs)
end

mutual
/-- Equality of values. Kinds never equal each other; floats are compared as numbers, and JSON
objects as sets of members. -/
def same : Value → Value → Bool
  | text a, text b => a == b
  | integer a, integer b => a == b
  | bigInt a, bigInt b => a == b
  | float a, float b => a.sameNumber b
  | boolean a, boolean b => a == b
  | uuid a, uuid b => a == b
  | date a, date b => a == b
  | timestamp a, timestamp b => a == b
  | json a, json b => a.canonical.same b.canonical
  | list a, list b => sameItems a b
  | null, null => true
  | _, _ => false

def sameItems : List Value → List Value → Bool
  | [], [] => true
  | a :: as, b :: bs => same a b && sameItems as bs
  | _, _ => false
end

end Value

end BoundQuery
