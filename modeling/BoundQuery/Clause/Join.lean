import BoundQuery.Text.Blank

/-!
# Joins

A join names a kind, a source and perhaps an alias and an extra condition. The condition counts
only if neither of its sides is blank.
-/

namespace BoundQuery

inductive JoinKind where
  | left
  | right
  | inner
  | full
deriving DecidableEq, Repr, Inhabited

def JoinKind.keyword : JoinKind → String
  | left => "LEFT JOIN"
  | right => "RIGHT JOIN"
  | inner => "INNER JOIN"
  | full => "FULL JOIN"

/-- The operators of a join condition. -/
inductive WithOperator where
  | equal
  | notEqual
deriving DecidableEq, Repr, Inhabited

def WithOperator.symbol : WithOperator → String
  | equal => "="
  | notEqual => "!="

/-- An extra condition of a join. -/
structure WithCondition where
  left : String
  operator : WithOperator
  right : String
deriving DecidableEq, Repr, Inhabited

namespace WithCondition

/-- Neither side is blank. -/
def isComplete (c : WithCondition) : Bool := !Text.allBlank c.left && !Text.allBlank c.right

def text (c : WithCondition) : String :=
  " WITH " ++ c.left ++ " " ++ c.operator.symbol ++ " " ++ c.right

end WithCondition

structure Join where
  kind : JoinKind
  source : String
  aliasName : Option String := none
  fetch : Bool := false
  condition : Option WithCondition := none
deriving DecidableEq, Repr, Inhabited

namespace Join

/-- The condition to render; one that is not complete counts as absent. -/
def effectiveCondition (j : Join) : Option WithCondition :=
  j.condition.filter WithCondition.isComplete

/-- The name other clauses use for the source. -/
def reference (j : Join) : String := j.aliasName.getD j.source

def aliasText : Option String → String
  | some label => " as " ++ label
  | none => ""

def conditionText : Option WithCondition → String
  | some c => c.text
  | none => ""

def text (j : Join) : String :=
  j.kind.keyword ++ (if j.fetch then " FETCH" else "") ++ " " ++ j.source ++
    aliasText j.aliasName ++ conditionText j.effectiveCondition

/-- The joins one after another, blanks between. -/
def clause (joins : List Join) : String := " ".intercalate (joins.map text)

end Join

end BoundQuery
