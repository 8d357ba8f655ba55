/-!
# Grouping

The texts behind GROUP BY and HAVING. Each may be set anew; an empty one renders nothing.
-/

namespace BoundQuery

structure Grouping where
  groupBy : Option String := none
  having : Option String := none
deriving DecidableEq, Repr, Inhabited

namespace Grouping

/-- Neither text was ever set. -/
def isEmpty (g : Grouping) : Bool := g.groupBy.isNone && g.having.isNone

/-- A keyword and its text, or nothing without a text. -/
def clauseText (keyword : String) : Option String → String
  | some text => if text = "" then "" else keyword ++ " " ++ text
  | none => ""

def groupByClause (g : Grouping) : String := clauseText "GROUP BY" g.groupBy

def havingClause (g : Grouping) : String := clauseText "HAVING" g.having

end Grouping

end BoundQuery
