import BoundQuery.Toml.Scalar

/-!
# Documents that any reader takes

The readers of settings look at some values only and take integers of any width. A reader of
whole documents takes integers of 64 bits with sign, and no number that is too large for a
double. It also knows a table that stands for a date or a time: one whose first key is a mark,
with the text of the date or time under it.
-/

namespace BoundQuery.Toml

/-- The key that marks a table standing for a date or a time. -/
def dateTimeKey : String := "$__toml_private_datetime"

/-- A string that holds a date, a time or both. -/
def isDateTimeText : Toml → Bool
  | string s => (dateTimeWord? s.toList).isSome
  | _ => false

mutual
/-- The value can be read; the entries of tables are in key order. -/
def isStandard : Toml → Bool
  | integer i => decide (-0x8000000000000000 ≤ i ∧ i < 0x8000000000000000)
  | hugeFloat => false
  | array items => areStandard items
  | tables items => areStandard items
  | table _ [] => true
  | table _ ((key, v) :: entries) =>
    if key = dateTimeKey then isDateTimeText v else isStandard v && entriesStandard entries
  | _ => true

def areStandard : List Toml → Bool
  | [] => true
  | item :: items => isStandard item && areStandard items

def entriesStandard : List (String × Toml) → Bool
  | [] => true
  | (_, v) :: entries => isStandard v && entriesStandard entries
end

end BoundQuery.Toml
