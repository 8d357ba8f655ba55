/-!
# Placeholder tokens

A builder numbers its own tokens from zero. A token taken over from a nested builder keeps its
whole history as the origin and takes a fresh slot of the parent, so a chain of merges is read
off the token.
-/

namespace BoundQuery

/-- The name a bound value goes by. -/
inductive Token where
  /-- The `slot`-th allocation of a builder, written `_slot`. -/
  | own (slot : Nat)
  /-- A token of a nested builder under a slot of its parent, written `sub` origin `_` slot. -/
  | merged (origin : Token) (slot : Nat)
deriving DecidableEq, Repr, Inhabited

namespace Token

/-- The slot in the builder that holds the token. -/
def slot : Token → Nat
  | own slot => slot
  | merged _ slot => slot

/-- The name under which the parameter table lists the token. -/
def name : Token → String
  | own slot => "_" ++ slot.repr
  | merged origin slot => "sub" ++ origin.name ++ "_" ++ slot.repr

/-- The name as it stands in a statement's text. -/
def placeholder (token : Token) : String := ":" ++ token.name

/-- Own tokens come before merged ones; own tokens go by slot, merged ones by origin, then slot. -/
def order : Token → Token → Ordering
  | own a, own b => compare a b
  | own _, merged _ _ => .lt
  | merged _ _, own _ => .gt
  | merged a m, merged b n => (order a b).then (compare m n)

/-- Sorts tokens by `order`. -/
def sort (tokens : List Token) : List Token :=
  tokens.mergeSort fun a b => (order a b).isLE

example : (merged (merged (own 0) 1) 12).name = "subsub_0_1_12" := by decide

end Token

/-- Hands out slots in sequence. -/
structure Counter where
  next : Nat := 0
deriving DecidableEq, Repr, Inhabited

namespace Counter

/-- The next slot and the counter after it. -/
def nextSlot (counter : Counter) : Nat × Counter := (counter.next, ⟨counter.next + 1⟩)

/-- The next token of the builder's own. -/
def nextToken (counter : Counter) : Token × Counter :=
  (.own counter.nextSlot.1, counter.nextSlot.2)

/-- How many slots were handed out since the start or the last reset. -/
def allocated (counter : Counter) : Nat := counter.next

/-- Starts the sequence again. -/
def reset (_ : Counter) : Counter := ⟨0⟩

end Counter

end BoundQuery
