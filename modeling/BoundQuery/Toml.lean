import BoundQuery.Number.Binary64

/-!
# TOML values and documents

A table remembers how it came about, for that decides what may still be added to it: a header
may complete a table that longer headers implied, dotted keys may extend a table of dotted keys,
and an inline table is closed.
-/

namespace BoundQuery

/-- How a table came about. -/
inductive TableOrigin where
  /-- Written in braces. -/
  | inlined
  /-- Opened by a header of its own. -/
  | header
  /-- Named on the way to a longer header. -/
  | implied
  /-- Named by a dotted key. -/
  | dotted
deriving DecidableEq, Repr, Inhabited

inductive Toml where
  | string (s : String)
  | integer (i : Int)
  | float (x : Binary64)
  /-- Digits that stand for more than the largest double. -/
  | hugeFloat
  | boolean (b : Bool)
  /-- A date, a time or both. -/
  | dateTime
  | array (items : List Toml)
  /-- The tables under a header in double brackets, in order. -/
  | tables (items : List Toml)
  | table (origin : TableOrigin) (entries : List (String × Toml))
deriving Inhabited

namespace Toml

abbrev Entries := List (String × Toml)

/-- Changes the value under a key or adds one at the end, if `change` agrees. -/
def alter (key : String) (change : Option Toml → Option Toml) : Entries → Option Entries
  | [] => (change none).map fun v => [(key, v)]
  | (k, v) :: rest =>
    if k = key then (change (some v)).map fun v => (k, v) :: rest
    else (alter key change rest).map ((k, v) :: ·)

/-- Changes the entries of the last of several tables. -/
def alterLast (change : Entries → Option Entries) : List Toml → Option (List Toml)
  | [] => none
  | [table origin entries] => (change entries).map fun entries => [table origin entries]
  | [_] => none
  | item :: items => (alterLast change items).map (item :: ·)

/-- Makes the table that a header names; `last` is what happens under the last key. -/
def openPath (last : Option Toml → Option Toml) : List String → Entries → Option Entries
  | [], _ => none
  | [key], entries => alter key last entries
  | key :: keys, entries =>
    alter key (fun
      | none => (openPath last keys []).map (table .implied)
      | some (table .inlined _) => none
      | some (table origin inner) => (openPath last keys inner).map (table origin)
      | some (tables items) => (alterLast (openPath last keys) items).map tables
      | _ => none) entries

/-- Opens the table of a header, which only longer headers may have named before. -/
def openTable (path : List String) (entries : Entries) : Option Entries :=
  openPath (fun
    | none => some (table .header [])
    | some (table .implied inner) => some (table .header inner)
    | _ => none) path entries

/-- Adds a table under a header in double brackets. -/
def openElement (path : List String) (entries : Entries) : Option Entries :=
  openPath (fun
    | none => some (tables [table .header []])
    | some (tables items) => some (tables (items ++ [table .header []]))
    | _ => none) path entries

/-- Stores a value under a dotted key that is not yet taken. -/
def assign (value : Toml) : List String → Entries → Option Entries
  | [], _ => none
  | [key], entries => alter key (fun
      | none => some value
      | some _ => none) entries
  | key :: next :: keys, entries =>
    alter key (fun
      | none => (assign value (next :: keys) []).map (table .dotted)
      | some (table .dotted inner) => (assign value (next :: keys) inner).map (table .dotted)
      | some (table .implied inner) =>
        if keys = [] then none else (assign value (next :: keys) inner).map (table .implied)
      | some (tables items) =>
        if keys = [] then none else (alterLast (assign value (next :: keys)) items).map tables
      | _ => none) entries

/-- Changes the entries of the table that was opened under a path. -/
def within (change : Entries → Option Entries) : List String → Entries → Option Entries
  | [], entries => change entries
  | key :: keys, entries =>
    alter key (fun
      | some (table origin inner) => (within change keys inner).map (table origin)
      | some (tables items) => (alterLast (within change keys) items).map tables
      | _ => none) entries

mutual
/-- Sorts the entries of every table by key. -/
def sorted : Toml → Toml
  | array items => array (sortedItems items)
  | tables items => tables (sortedItems items)
  | table origin entries =>
    table origin ((sortedEntries entries).mergeSort fun a b => decide (a.1 ≤ b.1))
  | other => other

def sortedItems : List Toml → List Toml
  | [] => []
  | item :: items => sorted item :: sortedItems items

def sortedEntries : List (String × Toml) → List (String × Toml)
  | [] => []
  | (key, value) :: entries => (key, sorted value) :: sortedEntries entries
end

end Toml

end BoundQuery
