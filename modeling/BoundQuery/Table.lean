/-!
# Tables in order of first insertion

A table lists its entries in the order in which their keys were first inserted. Inserting a
known key changes the value where it stands and moves nothing.

Main statements: `find?_insert`, `keys_insert`, `nodup_keys_insert`.
-/

namespace BoundQuery

/-- Entries under distinct keys, oldest key first. -/
structure Table (κ ν : Type) where
  entries : List (κ × ν)
deriving DecidableEq, Repr

namespace Table

variable {κ ν : Type} [DecidableEq κ]

/-- The value under `key` in a list of entries. -/
def lookup (key : κ) : List (κ × ν) → Option ν
  | [] => none
  | (k, v) :: rest => if k = key then some v else lookup key rest

/-- Replaces the value under `key`, or adds the entry at the end. -/
def put (key : κ) (value : ν) : List (κ × ν) → List (κ × ν)
  | [] => [(key, value)]
  | (k, v) :: rest => if k = key then (k, value) :: rest else (k, v) :: put key value rest

def empty : Table κ ν := ⟨[]⟩

instance : Inhabited (Table κ ν) := ⟨empty⟩

def insert (table : Table κ ν) (key : κ) (value : ν) : Table κ ν :=
  ⟨put key value table.entries⟩

def find? (table : Table κ ν) (key : κ) : Option ν := lookup key table.entries

def keys (table : Table κ ν) : List κ := table.entries.map Prod.fst

def values (table : Table κ ν) : List ν := table.entries.map Prod.snd

def size (table : Table κ ν) : Nat := table.entries.length

def isEmpty (table : Table κ ν) : Bool := table.entries.isEmpty

/-- Inserts the entries one after another, so a later value wins and a first position stays. -/
def ofList (entries : List (κ × ν)) : Table κ ν :=
  entries.foldl (fun table entry => table.insert entry.1 entry.2) empty

theorem lookup_put (key other : κ) (value : ν) (entries : List (κ × ν)) :
    lookup other (put key value entries) =
      if key = other then some value else lookup other entries := by
  induction entries with
  | nil => simp [put, lookup]
  | cons entry rest ih =>
    by_cases known : entry.1 = key
    · by_cases same : key = other <;> simp_all [put, lookup]
    · by_cases same : entry.1 = other
      · have : key ≠ other := fun equal => known (same.trans equal.symm)
        simp_all [put, lookup]
      · simp_all [put, lookup]

theorem find?_insert (table : Table κ ν) (key other : κ) (value : ν) :
    (table.insert key value).find? other =
      if key = other then some value else table.find? other :=
  lookup_put key other value table.entries

theorem keys_put (key : κ) (value : ν) (entries : List (κ × ν)) :
    (put key value entries).map Prod.fst =
      if key ∈ entries.map Prod.fst then entries.map Prod.fst
      else entries.map Prod.fst ++ [key] := by
  induction entries with
  | nil => simp [put]
  | cons entry rest ih =>
    by_cases known : entry.1 = key
    · simp [put, known]
    · have other : key ≠ entry.1 := fun equal => known equal.symm
      by_cases member : key ∈ rest.map Prod.fst
      · simp only [put, known, if_false, List.map_cons, ih, List.mem_cons, other, false_or,
          member, if_true]
      · simp only [put, known, if_false, List.map_cons, ih, List.mem_cons, other, false_or,
          member, List.cons_append]

/-- A known key keeps its place; a new one comes last. -/
theorem keys_insert (table : Table κ ν) (key : κ) (value : ν) :
    (table.insert key value).keys =
      if key ∈ table.keys then table.keys else table.keys ++ [key] :=
  keys_put key value table.entries

theorem nodup_keys_insert (table : Table κ ν) (key : κ) (value : ν) (distinct : table.keys.Nodup) :
    (table.insert key value).keys.Nodup := by
  rw [keys_insert]
  split
  · exact distinct
  · next fresh =>
    rw [List.nodup_append]
    refine ⟨distinct, by simp, ?_⟩
    intro a member b single equal
    simp only [List.mem_singleton] at single
    exact fresh (single ▸ equal ▸ member)

/-- A fresh key is appended with its value. -/
theorem entries_insert_of_notMem (table : Table κ ν) (key : κ) (value : ν)
    (fresh : key ∉ table.keys) :
    (table.insert key value).entries = table.entries ++ [(key, value)] := by
  obtain ⟨entries⟩ := table
  simp only [keys, insert] at *
  induction entries with
  | nil => rfl
  | cons entry rest ih =>
    simp only [List.map_cons, List.mem_cons, not_or] at fresh
    have other : entry.1 ≠ key := fun equal => fresh.1 equal.symm
    simp [put, other, ih fresh.2]

end Table

end BoundQuery
