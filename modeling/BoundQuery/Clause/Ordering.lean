import BoundQuery.Table

/-!
# Ordering

The fields a statement is sorted by. A field named again keeps its place and takes the new
direction.
-/

namespace BoundQuery

inductive Direction where
  | ascending
  | descending
deriving DecidableEq, Repr, Inhabited

namespace Direction

def keyword : Direction → String
  | ascending => "asc"
  | descending => "desc"

def ofAscending (flag : Bool) : Direction := if flag then ascending else descending

end Direction

/-- Sort fields in order of first mention. -/
structure SortFields where
  entries : Table String Direction := .empty
deriving DecidableEq, Repr, Inhabited

namespace SortFields

def add (fields : SortFields) (field : String) (direction : Direction) : SortFields :=
  ⟨fields.entries.insert field direction⟩

def entryText (entry : String × Direction) : String := entry.1 ++ " " ++ entry.2.keyword

/-- The ORDER BY clause, empty if there is no field. -/
def clause (fields : SortFields) : String :=
  if fields.entries.isEmpty then ""
  else "ORDER BY " ++ ", ".intercalate (fields.entries.entries.map entryText)

end SortFields

end BoundQuery
