/-!
# The select clause

What a statement selects, or that it deletes. A function mode wraps its operand in a call.
-/

namespace BoundQuery

inductive SelectMode where
  | field
  | count
  | sum
  | average
  | minimum
  | maximum
  | delete
  | newMap
deriving DecidableEq, Repr, Inhabited

namespace SelectMode

def keyword : SelectMode → String
  | delete => "DELETE"
  | _ => "SELECT"

/-- The function that wraps the operand, in the modes that have one. -/
def function? : SelectMode → Option String
  | count => some "count"
  | sum => some "sum"
  | average => some "avg"
  | minimum => some "min"
  | maximum => some "max"
  | newMap => some "new map"
  | field => none
  | delete => none

def isFunction (mode : SelectMode) : Bool := mode.function?.isSome

end SelectMode

/-- A mode and the operand given for it. -/
structure Select where
  mode : SelectMode
  given : Option String := none
deriving DecidableEq, Repr, Inhabited

namespace Select

/-- The operand to render: the given one, else `*` for a count, else nothing. -/
def operand (s : Select) : String :=
  match s.given, s.mode with
  | some operand, _ => operand
  | none, .count => "*"
  | none, _ => ""

/-- The select clause. Without a function and an operand the keyword stands alone. -/
def clause (s : Select) (distinct : Bool) : String :=
  let distinctText := if distinct then "DISTINCT " else ""
  match s.mode.function? with
  | some function => s.mode.keyword ++ " " ++ function ++ "(" ++ distinctText ++ s.operand ++ ")"
  | none =>
    if s.operand = "" then s.mode.keyword
    else s.mode.keyword ++ " " ++ distinctText ++ s.operand

end Select

end BoundQuery
