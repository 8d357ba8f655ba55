/-!
# Sets of characters

A set is kept as the increasing list of the codes at which membership changes, starting outside.
-/

namespace BoundQuery.Text

structure CharSet where
  changes : List Nat

namespace CharSet

/-- An odd number of changes lies at or before the code. -/
def contains (set : CharSet) (c : Char) : Bool :=
  set.changes.countP (fun change => decide (change ≤ c.toNat)) % 2 == 1

example : (⟨[97, 123]⟩ : CharSet).contains 'z' = true ∧
    (⟨[97, 123]⟩ : CharSet).contains '\x7b' = false := by decide

end CharSet

end BoundQuery.Text
