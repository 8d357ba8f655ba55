import BoundQuery.Table

/-!
# Lookup and bulk insertion in tables

Results:
1. `lookup_eq_some_iff`: under distinct keys a lookup finds exactly the entries of a list.
2. `entries_insertAll`: entries under new keys are appended as they stand.
3. `keys_insertAll`: the keys after an insertion depend on keys only, never on values.
-/

namespace BoundQuery.Table

variable {κ ν : Type} [DecidableEq κ]

/-- Inserts entries one after another. -/
def insertAll (table : Table κ ν) (entries : List (κ × ν)) : Table κ ν :=
  entries.foldl (fun table entry => table.insert entry.1 entry.2) table

@[simp] theorem insertAll_nil (table : Table κ ν) : table.insertAll [] = table := rfl

theorem insertAll_cons (table : Table κ ν) (entry : κ × ν) (rest : List (κ × ν)) :
    table.insertAll (entry :: rest) = (table.insert entry.1 entry.2).insertAll rest := rfl

theorem insertAll_append (table : Table κ ν) (front back : List (κ × ν)) :
    table.insertAll (front ++ back) = (table.insertAll front).insertAll back :=
  List.foldl_append

theorem ofList_eq_insertAll (entries : List (κ × ν)) : ofList entries = empty.insertAll entries :=
  rfl

/-! ## Lookup -/

theorem mem_of_lookup {key : κ} {value : ν} {entries : List (κ × ν)}
    (found : lookup key entries = some value) : (key, value) ∈ entries := by
  induction entries with
  | nil => cases found
  | cons entry rest ih =>
    obtain ⟨k, v⟩ := entry
    rw [lookup] at found
    split at found
    · next equal =>
      cases found
      subst equal
      exact List.mem_cons_self
    · exact List.mem_cons_of_mem _ (ih found)

theorem lookup_of_mem {key : κ} {value : ν} {entries : List (κ × ν)}
    (distinct : (entries.map Prod.fst).Nodup) (member : (key, value) ∈ entries) :
    lookup key entries = some value := by
  induction entries with
  | nil => cases member
  | cons entry rest ih =>
    obtain ⟨k, v⟩ := entry
    rw [List.map_cons, List.nodup_cons] at distinct
    rw [lookup]
    rcases List.mem_cons.mp member with equal | inRest
    · cases equal
      exact if_pos rfl
    · have other : k ≠ key := by
        rintro rfl
        exact distinct.1 (List.mem_map.mpr ⟨_, inRest, rfl⟩)
      rw [if_neg other]
      exact ih distinct.2 inRest

theorem lookup_eq_some_iff {key : κ} {value : ν} {entries : List (κ × ν)}
    (distinct : (entries.map Prod.fst).Nodup) :
    lookup key entries = some value ↔ (key, value) ∈ entries :=
  ⟨mem_of_lookup, lookup_of_mem distinct⟩

theorem find?_eq_none_of_notMem {table : Table κ ν} {key : κ} (missing : key ∉ table.keys) :
    table.find? key = none := by
  cases found : table.find? key with
  | none => rfl
  | some value => exact absurd (List.mem_map_of_mem (mem_of_lookup found)) missing

/-- Lookup in a list of what is known of some keys. -/
theorem lookup_filterMap (known : κ → Option ν) (key : κ) (keys : List κ) :
    lookup key (keys.filterMap fun k => (known k).map (k, ·)) =
      if key ∈ keys then known key else none := by
  induction keys with
  | nil => rfl
  | cons k keys ih =>
    rw [List.filterMap_cons]
    by_cases same : k = key
    · subst same
      cases found : known k with
      | none => simp [found, ih]
      | some v => simp [lookup]
    · have other : key ≠ k := Ne.symm same
      cases found : known k with
      | none => simp [ih, other]
      | some v => simp [lookup, same, ih, other]

/-- Lookup reads keys only, so it passes over a change of the values. -/
theorem map_lookup {μ : Type} (f : ν → μ) (key : κ) (entries : List (κ × ν)) :
    (lookup key entries).map f = lookup key (entries.map fun entry => (entry.1, f entry.2)) := by
  induction entries with
  | nil => rfl
  | cons entry rest ih =>
    obtain ⟨k, v⟩ := entry
    rw [List.map_cons, lookup, lookup]
    split
    · rfl
    · exact ih

/-! ## Insertion of many entries -/

/-- New keys, all different, are appended with their values. -/
theorem entries_insertAll (table : Table κ ν) (entries : List (κ × ν))
    (distinct : (table.keys ++ entries.map Prod.fst).Nodup) :
    (table.insertAll entries).entries = table.entries ++ entries := by
  induction entries generalizing table with
  | nil => simp
  | cons entry rest ih =>
    have fresh : entry.1 ∉ table.keys := by
      intro member
      rw [List.nodup_append] at distinct
      exact distinct.2.2 entry.1 member entry.1 (by simp) rfl
    have inserted := entries_insert_of_notMem table entry.1 entry.2 fresh
    have keys : (table.insert entry.1 entry.2).keys = table.keys ++ [entry.1] := by
      rw [keys_insert, if_neg fresh]
    rw [insertAll_cons, ih _ (by simpa [keys] using distinct), inserted]
    simp

/-- A list of distinct keys is its own table. -/
theorem entries_ofList {entries : List (κ × ν)} (distinct : (entries.map Prod.fst).Nodup) :
    (ofList entries).entries = entries := by
  rw [ofList_eq_insertAll, entries_insertAll _ _ (by simpa [keys, empty] using distinct)]
  rfl

/-- Keys in order of first mention, with another one mentioned. -/
def addKey (keys : List κ) (key : κ) : List κ := if key ∈ keys then keys else keys ++ [key]

/-- The keys after an insertion come from keys alone: values have no influence on them. -/
theorem keys_insertAll (table : Table κ ν) (entries : List (κ × ν)) :
    (table.insertAll entries).keys = (entries.map Prod.fst).foldl addKey table.keys := by
  induction entries generalizing table with
  | nil => rfl
  | cons entry rest ih =>
    rw [insertAll_cons, ih, keys_insert, List.map_cons, List.foldl_cons]
    rfl

end BoundQuery.Table
