import BoundQuery.Proofs.TimeText
import BoundQuery.Value.Json

/-!
# Normal forms of JSON values

A JSON value that is turned into a bound value and back comes out in a normal form. Time stamps and
identifiers get their written form and large integers become doubles, also inside arrays but not
inside objects; the rest stays. A second time changes nothing more, although the bound value may be
another one: a time stamp whose year in UTC has no four digits becomes mere text.

Results:
1. `Json.normalises_iff`: what the normal form may differ in, as a relation of its own.
2. `Json.normal_normal`: the normal form of a normal form is itself.
3. `Value.ofJson_normal` / `Value.fourDigitYears_of_same`: which values the normal form still stands
   for.
4. `Json.normalisation`: all of it for every JSON value.
-/

namespace BoundQuery

open Time (IsStamp Names)

/-! ## Leaves -/

namespace Value

theorem ofString_of_names {s : String} {t : Instant} (h : Names s.toList t) :
    ofString s = timestamp t := by
  rw [ofString, Time.ofStrict?_eq_some_iff.mpr h]

theorem ofString_of_uuid {s : String} {u : Uuid} (h : Uuid.ofText? s.toList = some u) :
    ofString s = uuid u := by
  have noTime : Time.ofStrict? s.toList = none := by
    cases read : Time.ofStrict? s.toList with
    | none => rfl
    | some t => exact absurd h (by simp [Time.ofText?_eq_none_of_ofStrict? read])
  rw [ofString, noTime, h]

theorem ofString_of_plain {s : String} (noTime : ¬IsStamp s.toList)
    (noUuid : Uuid.ofText? s.toList = none) : ofString s = text s := by
  rw [ofString, Time.ofStrict?_eq_none_iff.mpr noTime, noUuid]

theorem string_cases (s : String) :
    (∃ t, Names s.toList t) ∨ (∃ u, Uuid.ofText? s.toList = some u) ∨
      ¬IsStamp s.toList ∧ Uuid.ofText? s.toList = none := by
  by_cases time : IsStamp s.toList
  · exact .inl (Time.exists_names_iff.mpr time)
  · cases read : Uuid.ofText? s.toList with
    | some u => exact .inr (.inl ⟨u, rfl⟩)
    | none => exact .inr (.inr ⟨time, rfl⟩)

theorem ofString_uuidText (u : Uuid) : ofString (String.ofList u.text) = uuid u :=
  ofString_of_uuid (by rw [String.toList_ofList, u.ofText?_text])

/-- What the text of an instant is read as. -/
theorem ofString_numericText (t : Instant) : ofString (String.ofList t.numericText) =
    if 0 ≤ t.date.year ∧ t.date.year ≤ 9999 then timestamp t
    else text (String.ofList t.numericText) := by
  rw [ofString, String.toList_ofList, Time.ofStrict?_numericText, Time.ofText?_numericText]
  by_cases years : 0 ≤ t.date.year ∧ t.date.year ≤ 9999
  · rw [if_pos years, if_pos years]
  · rw [if_neg years, if_neg years]

theorem toJson_ofWideInt {i : WideInt} (narrow : i.val < 0x8000000000000000) :
    (ofWideInt i).toJson = .integer i := by
  have same {j : WideInt} (equal : j.val = i.val) : Json.integer j = .integer i := by
    cases i
    cases j
    cases equal
    rfl
  by_cases small : -0x80000000 ≤ i.val ∧ i.val < 0x80000000
  · rw [ofWideInt, if_pos small]
    exact same (Int32.toInt_ofInt_of_le small.1 small.2)
  · rw [ofWideInt, if_neg small, if_pos narrow]
    exact same (Int64.toInt_ofInt_of_le i.lower narrow)

theorem ofWideInt_of_wide {i : WideInt} (wide : 0x8000000000000000 ≤ i.val) :
    ofWideInt i = float (Binary64.ofInt i.val) := by
  rw [ofWideInt, if_neg (by omega), if_neg (by omega)]

end Value

theorem WideInt.exists_ofInt {i : WideInt} (wide : 0x8000000000000000 ≤ i.val) :
    ∃ x, Binary64.ofInt i.val = .finite x := by
  have upper := i.upper
  exact Binary64.exists_ofRatio_of_wide _ (by omega) (by omega)

/-! ## The normal form -/

namespace Json

/-- The image of the value that a JSON value stands for. -/
def normal (v : Json) : Json := (Value.ofJson v).toJson

def normalItems (items : List Json) : List Json := Value.toJsonItems (Value.ofJsonItems items)

mutual
/-- The second value is the first one with time stamps and identifiers in their written form and
doubles for large integers, anywhere in arrays. -/
inductive Normalises : Json → Json → Prop
  | time {s : String} {t : Instant} : Names s.toList t →
      Normalises (.string s) (.string (String.ofList t.numericText))
  | uuid {s : String} {u : Uuid} : Uuid.ofText? s.toList = some u →
      Normalises (.string s) (.string (String.ofList u.text))
  | plain {s : String} : ¬IsStamp s.toList → Uuid.ofText? s.toList = none →
      Normalises (.string s) (.string s)
  | wide {i : WideInt} {x : Finite64} : 0x8000000000000000 ≤ i.val →
      Binary64.ofInt i.val = .finite x → Normalises (.integer i) (.number x)
  | narrow {i : WideInt} : i.val < 0x8000000000000000 → Normalises (.integer i) (.integer i)
  | null : Normalises .null .null
  | bool (b : Bool) : Normalises (.bool b) (.bool b)
  | number (x : Finite64) : Normalises (.number x) (.number x)
  | object (members : List (String × Json)) : Normalises (.object members) (.object members)
  | array {items items' : List Json} : NormalisesItems items items' →
      Normalises (.array items) (.array items')

/-- Item by item in the same order. -/
inductive NormalisesItems : List Json → List Json → Prop
  | nil : NormalisesItems [] []
  | cons {item item' : Json} {items items' : List Json} : Normalises item item' →
      NormalisesItems items items' → NormalisesItems (item :: items) (item' :: items')
end

theorem normal_string_of_names {s : String} {t : Instant} (h : Names s.toList t) :
    normal (.string s) = .string (String.ofList t.numericText) := by
  rw [normal, Value.ofJson, Value.ofString_of_names h, Value.toJson]

theorem normal_string_of_uuid {s : String} {u : Uuid} (h : Uuid.ofText? s.toList = some u) :
    normal (.string s) = .string (String.ofList u.text) := by
  rw [normal, Value.ofJson, Value.ofString_of_uuid h, Value.toJson]

theorem normal_string_of_plain {s : String} (noTime : ¬IsStamp s.toList)
    (noUuid : Uuid.ofText? s.toList = none) : normal (.string s) = .string s := by
  rw [normal, Value.ofJson, Value.ofString_of_plain noTime noUuid, Value.toJson]

theorem normal_integer {i : WideInt} (narrow : i.val < 0x8000000000000000) :
    normal (.integer i) = .integer i := Value.toJson_ofWideInt narrow

theorem normal_integer_of_wide {i : WideInt} {x : Finite64} (wide : 0x8000000000000000 ≤ i.val)
    (double : Binary64.ofInt i.val = .finite x) : normal (.integer i) = .number x := by
  rw [normal, Value.ofJson, Value.ofWideInt_of_wide wide, double]
  rfl

theorem normal_array (items : List Json) : normal (.array items) = .array (normalItems items) := by
  rw [normal, Value.ofJson, Value.toJson, normalItems]

theorem normalItems_cons (item : Json) (items : List Json) :
    normalItems (item :: items) = normal item :: normalItems items := by
  rw [normalItems, Value.ofJsonItems, Value.toJsonItems, normal, normalItems]

mutual
theorem normalises_normal : ∀ v : Json, Normalises v (normal v)
  | .null => .null
  | .bool b => .bool b
  | .number x => .number x
  | .object members => .object members
  | .integer i => by
    rcases Int.lt_or_le i.val 0x8000000000000000 with narrow | wide
    · rw [normal_integer narrow]
      exact .narrow narrow
    · obtain ⟨x, double⟩ := WideInt.exists_ofInt wide
      rw [normal_integer_of_wide wide double]
      exact .wide wide double
  | .string s => by
    rcases Value.string_cases s with ⟨t, time⟩ | ⟨u, uuid⟩ | ⟨noTime, noUuid⟩
    · rw [normal_string_of_names time]
      exact .time time
    · rw [normal_string_of_uuid uuid]
      exact .uuid uuid
    · rw [normal_string_of_plain noTime noUuid]
      exact .plain noTime noUuid
  | .array items => by
    rw [normal_array]
    exact .array (normalisesItems_normalItems items)

theorem normalisesItems_normalItems : ∀ items : List Json, NormalisesItems items (normalItems items)
  | [] => .nil
  | item :: items => by
    rw [normalItems_cons]
    exact .cons (normalises_normal item) (normalisesItems_normalItems items)
end

mutual
theorem Normalises.eq_normal {v w : Json} (h : Normalises v w) : w = normal v := by
  cases h with
  | time names => rw [normal_string_of_names names]
  | uuid read => rw [normal_string_of_uuid read]
  | plain noTime noUuid => rw [normal_string_of_plain noTime noUuid]
  | wide wide double => rw [normal_integer_of_wide wide double]
  | narrow narrow => rw [normal_integer narrow]
  | array items => rw [normal_array, items.eq_normalItems]
  | _ => rfl

theorem NormalisesItems.eq_normalItems {items items' : List Json}
    (h : NormalisesItems items items') : items' = normalItems items := by
  cases h with
  | nil => rfl
  | cons item items => rw [normalItems_cons, item.eq_normal, items.eq_normalItems]
end

/-- Every value has one normal form. -/
theorem normalises_iff {v w : Json} : Normalises v w ↔ w = normal v :=
  ⟨Normalises.eq_normal, fun equal => equal ▸ normalises_normal v⟩

mutual
/-- A text written for a year without four digits is plain, so it stays as well. -/
theorem normal_normal : ∀ v : Json, normal (normal v) = normal v
  | .null => rfl
  | .bool _ => rfl
  | .number _ => rfl
  | .object _ => rfl
  | .integer i => by
    rcases Int.lt_or_le i.val 0x8000000000000000 with narrow | wide
    · rw [normal_integer narrow, normal_integer narrow]
    · obtain ⟨x, double⟩ := WideInt.exists_ofInt wide
      rw [normal_integer_of_wide wide double]
      rfl
  | .string s => by
    rcases Value.string_cases s with ⟨t, time⟩ | ⟨u, uuid⟩ | ⟨noTime, noUuid⟩
    · rw [normal_string_of_names time, normal, Value.ofJson, Value.ofString_numericText]
      split <;> rfl
    · rw [normal_string_of_uuid uuid, normal, Value.ofJson, Value.ofString_uuidText]
      rfl
    · rw [normal_string_of_plain noTime noUuid, normal_string_of_plain noTime noUuid]
  | .array items => by rw [normal_array, normal_array, normalItems_normalItems items]

theorem normalItems_normalItems :
    ∀ items : List Json, normalItems (normalItems items) = normalItems items
  | [] => rfl
  | item :: items => by
    rw [normalItems_cons, normalItems_cons, normal_normal item, normalItems_normalItems items]
end

-- Where year zero has begun, it is still the year before in UTC.
example : normal (.string "0000-01-01T00:30:00+01:00") = .string "-0001-12-31T23:30:00+00:00" := by
  rfl

/-! ## The value of the normal form -/

mutual
theorem same_self : ∀ v : Json, v.same v = true
  | .null => rfl
  | .bool b => by simp [same]
  | .integer i => by simp [same]
  | .number x => by simp [same]
  | .string s => by simp [same]
  | .array items => by rw [same, sameItems_self items]
  | .object members => by rw [same, sameMembers_self members]

theorem sameItems_self : ∀ items : List Json, sameItems items items = true
  | [] => rfl
  | item :: items => by rw [sameItems, same_self item, sameItems_self items, Bool.and_self]

theorem sameMembers_self : ∀ members : List (String × Json), sameMembers members members = true
  | [] => rfl
  | (key, value) :: members => by
    rw [sameMembers, same_self value, sameMembers_self members, beq_self_eq_true, Bool.and_self,
      Bool.and_self]
end

end Json

namespace Value

open Json (normal normalItems)

/-- The time stamp is the value or an item of it, at any depth of lists. JSON inside of a value is
not looked at. -/
inductive Holds (t : Instant) : Value → Prop
  | self : Holds t (timestamp t)
  | item {items : List Value} {v : Value} : v ∈ items → Holds t v → Holds t (list items)

/-- Every time stamp of the value has a year from 0 to 9999. -/
def FourDigitYears (v : Value) : Prop :=
  ∀ t, Holds t v → 0 ≤ t.date.year ∧ t.date.year ≤ 9999

theorem fourDigitYears_timestamp {t : Instant} :
    FourDigitYears (timestamp t) ↔ 0 ≤ t.date.year ∧ t.date.year ≤ 9999 := by
  constructor
  · intro h
    exact h t .self
  · intro years t' held
    cases held
    exact years

theorem fourDigitYears_list {items : List Value} :
    FourDigitYears (list items) ↔ ∀ v ∈ items, FourDigitYears v := by
  constructor
  · intro h v member t held
    exact h t (.item member held)
  · intro h t held
    cases held with
    | item member held => exact h _ member t held

theorem fourDigitYears_ofWideInt (i : WideInt) : FourDigitYears (ofWideInt i) := by
  intro t held
  rw [ofWideInt] at held
  split at held
  · cases held
  · split at held <;> cases held

mutual
/-- With four digits in every year, the normal form stands for the same value. -/
theorem ofJson_normal : ∀ v : Json, FourDigitYears (ofJson v) → ofJson (normal v) = ofJson v
  | .null, _ => rfl
  | .bool _, _ => rfl
  | .number _, _ => rfl
  | .object _, _ => rfl
  | .integer i, _ => by
    rcases Int.lt_or_le i.val 0x8000000000000000 with narrow | wide
    · rw [Json.normal_integer narrow]
    · obtain ⟨x, double⟩ := WideInt.exists_ofInt wide
      rw [Json.normal_integer_of_wide wide double, ofJson, ofJson, ofWideInt_of_wide wide, double]
  | .string s, years => by
    rcases string_cases s with ⟨t, time⟩ | ⟨u, uuid⟩ | ⟨noTime, noUuid⟩
    · rw [ofJson, ofString_of_names time, fourDigitYears_timestamp] at years
      rw [Json.normal_string_of_names time, ofJson, ofJson, ofString_of_names time,
        ofString_numericText, if_pos years]
    · rw [Json.normal_string_of_uuid uuid, ofJson, ofJson, ofString_of_uuid uuid, ofString_uuidText]
    · rw [Json.normal_string_of_plain noTime noUuid]
  | .array items, years => by
    rw [ofJson, fourDigitYears_list] at years
    rw [Json.normal_array, ofJson, ofJson, ofJsonItems_normalItems items years]

theorem ofJsonItems_normalItems : ∀ items : List Json,
    (∀ v ∈ ofJsonItems items, FourDigitYears v) →
      ofJsonItems (normalItems items) = ofJsonItems items
  | [], _ => rfl
  | item :: items, years => by
    rw [ofJsonItems, List.forall_mem_cons] at years
    rw [Json.normalItems_cons, ofJsonItems, ofJsonItems, ofJson_normal item years.1,
      ofJsonItems_normalItems items years.2]
end

mutual
/-- A year without four digits makes a text of the time stamp, which no time stamp equals. -/
theorem fourDigitYears_of_same :
    ∀ v : Json, (ofJson (normal v)).same (ofJson v) = true → FourDigitYears (ofJson v)
  | .null, _ | .bool _, _ | .number _, _ | .object _, _ => by
    intro t held
    rw [ofJson] at held
    cases held
  | .integer i, _ => fourDigitYears_ofWideInt i
  | .string s, equal => by
    rcases string_cases s with ⟨t, time⟩ | ⟨u, uuid⟩ | ⟨noTime, noUuid⟩
    · rw [Json.normal_string_of_names time, ofJson, ofJson, ofString_of_names time,
        ofString_numericText] at equal
      rw [ofJson, ofString_of_names time, fourDigitYears_timestamp]
      split at equal
      · assumption
      · cases equal
    · rw [ofJson, ofString_of_uuid uuid]
      intro t held
      cases held
    · rw [ofJson, ofString_of_plain noTime noUuid]
      intro t held
      cases held
  | .array items, equal => by
    rw [Json.normal_array, ofJson, ofJson, same] at equal
    rw [ofJson, fourDigitYears_list]
    exact fourDigitYears_of_sameItems items equal

theorem fourDigitYears_of_sameItems : ∀ items : List Json,
    sameItems (ofJsonItems (normalItems items)) (ofJsonItems items) = true →
      ∀ v ∈ ofJsonItems items, FourDigitYears v
  | [], _ => nofun
  | item :: items, equal => by
    rw [Json.normalItems_cons, ofJsonItems, ofJsonItems, sameItems, Bool.and_eq_true] at equal
    rw [ofJsonItems, List.forall_mem_cons]
    exact ⟨fourDigitYears_of_same item equal.1, fourDigitYears_of_sameItems items equal.2⟩
end

mutual
/-- No JSON value stands for a float that is not a number, so all of them equal themselves. -/
theorem same_ofJson : ∀ v : Json, (ofJson v).same (ofJson v) = true
  | .null => rfl
  | .bool b => by simp [ofJson, same]
  | .number x => by simp [ofJson, same, Binary64.sameNumber]
  | .object members => Json.same_self _
  | .integer i => by
    rw [ofJson]
    by_cases wide : 0x8000000000000000 ≤ i.val
    · obtain ⟨x, double⟩ := WideInt.exists_ofInt wide
      rw [ofWideInt_of_wide wide, double]
      simp [same, Binary64.sameNumber]
    · rw [ofWideInt, if_pos (Int.not_le.mp wide)]
      split <;> simp [same]
  | .string s => by
    rw [ofJson]
    rcases string_cases s with ⟨t, time⟩ | ⟨u, uuid⟩ | ⟨noTime, noUuid⟩
    · simp [ofString_of_names time, same]
    · simp [ofString_of_uuid uuid, same]
    · simp [ofString_of_plain noTime noUuid, same]
  | .array items => by rw [ofJson, same, sameItems_ofJsonItems items]

theorem sameItems_ofJsonItems :
    ∀ items : List Json, sameItems (ofJsonItems items) (ofJsonItems items) = true
  | [] => rfl
  | item :: items => by
    rw [ofJsonItems, sameItems, same_ofJson item, sameItems_ofJsonItems items, Bool.and_self]
end

end Value

namespace Json

/-- Each JSON value has one normal form, which differs from it only as `Normalises` says and is the
normal form of itself. It stands for the same value, or for one equal to it, exactly if every time
stamp of the value, at any depth of lists, has a year from 0 to 9999. -/
theorem normalisation (v : Json) :
    (∀ w, Normalises v w ↔ w = normal v) ∧ normal (normal v) = normal v ∧
      (Value.ofJson (normal v) = Value.ofJson v ↔ (Value.ofJson v).FourDigitYears) ∧
      ((Value.ofJson (normal v)).same (Value.ofJson v) = true ↔
        (Value.ofJson v).FourDigitYears) := by
  refine ⟨fun w => normalises_iff, normal_normal v, ⟨fun equal => ?_, Value.ofJson_normal v⟩,
    ⟨Value.fourDigitYears_of_same v, fun years => ?_⟩⟩
  · refine Value.fourDigitYears_of_same v ?_
    rw [equal]
    exact Value.same_ofJson v
  · rw [Value.ofJson_normal v years]
    exact Value.same_ofJson v

end Json

end BoundQuery
