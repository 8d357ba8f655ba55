import BoundQuery.Number.Layout

/-!
# JSON values

An object lists its members in the order of their text. The canonical form sorts them by key and
keeps the last of several under one key; `Ordered` is the predicate of that form. Integers that
fit 64 bits, signed or unsigned, are kept exactly; every other number is a finite double.

Main statements: `ordered_canonical`, `canonical_of_ordered`.
-/

namespace BoundQuery

/-- An integer that fits 64 bits, signed or unsigned. -/
structure WideInt where
  val : Int
  lower : -0x8000000000000000 ≤ val
  upper : val < 0x10000000000000000
deriving DecidableEq, Repr

namespace WideInt

def ofInt? (i : Int) : Option WideInt :=
  if h : -0x8000000000000000 ≤ i ∧ i < 0x10000000000000000 then some ⟨i, h.1, h.2⟩ else none

theorem ofInt?_val (i : WideInt) : ofInt? i.val = some i := dif_pos ⟨i.lower, i.upper⟩

def ofInt32 (i : Int32) : WideInt :=
  ⟨i.toInt, by have := i.le_toInt; omega, by have := i.toInt_lt; omega⟩

def ofInt64 (i : Int64) : WideInt :=
  ⟨i.toInt, by have := i.le_toInt; omega, by have := i.toInt_lt; omega⟩

end WideInt

inductive Json where
  | null
  | bool (b : Bool)
  | integer (i : WideInt)
  | number (x : Finite64)
  | string (s : String)
  | array (items : List Json)
  | object (members : List (String × Json))
deriving Inhabited

namespace Json

/-- Puts a member into a sorted list unless its key is there. -/
def insertNew (key : String) (value : Json) : List (String × Json) → List (String × Json)
  | [] => [(key, value)]
  | (k, v) :: rest =>
    if key < k then (key, value) :: (k, v) :: rest
    else if key = k then (k, v) :: rest
    else (k, v) :: insertNew key value rest

mutual
/-- Sorts the members of every object; the last of several under one key stays. -/
def canonical : Json → Json
  | array items => array (canonicalItems items)
  | object members => object (canonicalMembers members)
  | other => other

def canonicalItems : List Json → List Json
  | [] => []
  | item :: items => canonical item :: canonicalItems items

def canonicalMembers : List (String × Json) → List (String × Json)
  | [] => []
  | (key, value) :: members => insertNew key (canonical value) (canonicalMembers members)
end

/-- The key comes before all keys of the list. -/
def Precedes (key : String) (members : List (String × Json)) : Prop :=
  ∀ member ∈ members, key < member.1

mutual
/-- Every object lists its members in strictly increasing key order. -/
def Ordered : Json → Prop
  | array items => OrderedItems items
  | object members => OrderedMembers members
  | _ => True

def OrderedItems : List Json → Prop
  | [] => True
  | item :: items => Ordered item ∧ OrderedItems items

def OrderedMembers : List (String × Json) → Prop
  | [] => True
  | (key, value) :: members => Precedes key members ∧ Ordered value ∧ OrderedMembers members
end

mutual
/-- Equality of canonical values; numbers are equal as numbers, but an integer never equals a
double. -/
def same : Json → Json → Bool
  | null, null => true
  | bool a, bool b => a == b
  | integer a, integer b => a == b
  | number a, number b => a.sameNumber b
  | string a, string b => a == b
  | array a, array b => sameItems a b
  | object a, object b => sameMembers a b
  | _, _ => false

def sameItems : List Json → List Json → Bool
  | [], [] => true
  | a :: as, b :: bs => same a b && sameItems as bs
  | _, _ => false

def sameMembers : List (String × Json) → List (String × Json) → Bool
  | [], [] => true
  | (k, a) :: as, (l, b) :: bs => k == l && same a b && sameMembers as bs
  | _, _ => false
end

/-- A number as JSON: a double if it is finite, else `null`. -/
def ofBinary64 : Binary64 → Json
  | .finite x => number x
  | _ => null

/-- The value under a key of an object. -/
def field? (key : String) : Json → Option Json
  | object members => members.findSome? fun member => if member.1 = key then some member.2 else none
  | _ => none

theorem mem_insertNew {key : String} {value : Json} {members : List (String × Json)}
    {member : String × Json} (h : member ∈ insertNew key value members) :
    member = (key, value) ∨ member ∈ members := by
  induction members with
  | nil => simpa [insertNew] using h
  | cons head rest ih =>
    obtain ⟨k, v⟩ := head
    simp only [insertNew] at h
    split at h
    · simpa using h
    · split at h
      · exact Or.inr h
      · rcases List.mem_cons.1 h with rfl | h
        · simp
        · rcases ih h with h | h
          · exact Or.inl h
          · exact Or.inr (List.mem_cons_of_mem _ h)

theorem orderedMembers_insertNew {key : String} {value : Json} {members : List (String × Json)}
    (ordered : OrderedMembers members) (inner : Ordered value) :
    OrderedMembers (insertNew key value members) := by
  induction members with
  | nil => simp [insertNew, OrderedMembers, Precedes, inner]
  | cons head rest ih =>
    obtain ⟨k, v⟩ := head
    obtain ⟨before, first, others⟩ := ordered
    simp only [insertNew]
    split
    · next less =>
      refine ⟨?_, inner, before, first, others⟩
      intro member h
      rcases List.mem_cons.1 h with rfl | h
      · exact less
      · exact String.lt_trans less (before member h)
    · next notLess =>
      split
      · exact ⟨before, first, others⟩
      · next other =>
        refine ⟨?_, first, ih others⟩
        intro member h
        rcases mem_insertNew h with rfl | h
        · exact Decidable.byContradiction fun notGreater =>
            other (String.le_antisymm (String.not_lt.1 notGreater) (String.not_lt.1 notLess))
        · exact before member h

mutual
theorem ordered_canonical : ∀ v : Json, Ordered (canonical v)
  | null | bool _ | integer _ | number _ | string _ => by simp [canonical, Ordered]
  | array items => by simpa [canonical, Ordered] using orderedItems_canonicalItems items
  | object members => by simpa [canonical, Ordered] using orderedMembers_canonicalMembers members

theorem orderedItems_canonicalItems : ∀ items : List Json, OrderedItems (canonicalItems items)
  | [] => by simp [canonicalItems, OrderedItems]
  | item :: items => ⟨ordered_canonical item, orderedItems_canonicalItems items⟩

theorem orderedMembers_canonicalMembers :
    ∀ members : List (String × Json), OrderedMembers (canonicalMembers members)
  | [] => by simp [canonicalMembers, OrderedMembers]
  | (_, value) :: members => by
    simp only [canonicalMembers]
    exact orderedMembers_insertNew (orderedMembers_canonicalMembers members)
      (ordered_canonical value)
end

theorem insertNew_of_precedes {key : String} {value : Json} {members : List (String × Json)}
    (h : Precedes key members) : insertNew key value members = (key, value) :: members := by
  cases members with
  | nil => rfl
  | cons head rest => simp [insertNew, h head (by simp)]

mutual
/-- The canonical form of an ordered value is the value. -/
theorem canonical_of_ordered : ∀ v : Json, Ordered v → canonical v = v
  | null, _ | bool _, _ | integer _, _ | number _, _ | string _, _ => by simp [canonical]
  | array items, h => by
    simp only [canonical, canonicalItems_of_ordered items (by simpa [Ordered] using h)]
  | object members, h => by
    simp only [canonical, canonicalMembers_of_ordered members (by simpa [Ordered] using h)]

theorem canonicalItems_of_ordered :
    ∀ items : List Json, OrderedItems items → canonicalItems items = items
  | [], _ => rfl
  | item :: items, h => by
    simp only [canonicalItems, canonical_of_ordered item h.1,
      canonicalItems_of_ordered items h.2]

theorem canonicalMembers_of_ordered :
    ∀ members : List (String × Json), OrderedMembers members → canonicalMembers members = members
  | [], _ => rfl
  | (key, value) :: members, h => by
    simp only [canonicalMembers, canonical_of_ordered value h.2.1,
      canonicalMembers_of_ordered members h.2.2, insertNew_of_precedes h.1]
end

end Json

end BoundQuery
