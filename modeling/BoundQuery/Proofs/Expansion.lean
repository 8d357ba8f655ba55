import BoundQuery.Statement

/-!
# Positions of one value

A list takes as many positions as it has items, one behind the other, and any other value takes one.
Pushing a value to those that have positions already gives it the next ones.

Results:
1. `pushItems_eq`: the items of a list get positions in a row, and follow the values in their order.
2. `pushValue_eq`: a value is replaced by its positions, and its expansion follows the values.
-/

namespace BoundQuery

namespace Value

/-- The values that take positions: the items of a list, or the value itself. -/
def expansion : Value → List Value
  | list items => items
  | v => [v]

/-- How many positions a value takes. -/
def width (v : Value) : Nat := v.expansion.length

end Value

/-- What a token is replaced by, if its first position is `start`. -/
def positionsText (start : Nat) : Value → String
  | .list items =>
    "(" ++ ", ".intercalate ((List.range' start items.length).map positionText) ++ ")"
  | _ => positionText start

theorem pushItems_eq (values : Array Value) (items : List Value) :
    pushItems values items =
      ((List.range' (values.size + 1) items.length).map positionText, values ++ items) := by
  induction items generalizing values with
  | nil => simp [pushItems]
  | cons item rest ih =>
    have later : values.push item ++ rest = values ++ item :: rest := by
      rw [← Array.toList_inj]
      simp
    rw [pushItems, ih, Array.size_push, later, List.length_cons, List.range'_succ, List.map_cons]

theorem pushValue_eq (values : Array Value) (v : Value) :
    pushValue values v = (positionsText (values.size + 1) v, values ++ v.expansion) := by
  cases v with
  | list items => rw [pushValue, pushItems_eq, positionsText, Value.expansion]
  | _ =>
    simp only [pushValue, positionsText, Value.expansion, Array.size_push, Prod.mk.injEq, true_and]
    rw [← Array.toList_inj]
    simp

end BoundQuery
