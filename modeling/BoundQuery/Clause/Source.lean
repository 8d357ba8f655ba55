import BoundQuery.Table
import BoundQuery.Text.Blank

/-!
# Sources

The names a statement selects from, each with an optional alias. A name registered again takes
the new alias where it stands.
-/

namespace BoundQuery

/-- Registered sources in order of registration. -/
structure Sources where
  entries : Table String (Option String) := .empty
deriving DecidableEq, Repr, Inhabited

namespace Sources

/-- Adds a source, or gives a known one a new alias. -/
def register (sources : Sources) (name : String) (aliasName : Option String) : Sources :=
  ⟨sources.entries.insert name aliasName⟩

/-- The alias of a name that is known and has one. -/
def aliasOf? (sources : Sources) (name : String) : Option String :=
  (sources.entries.find? name).join

def size (sources : Sources) : Nat := sources.entries.size

def isEmpty (sources : Sources) : Bool := sources.entries.isEmpty

/-- A name, with its alias unless that is missing or empty. -/
def entryText (entry : String × Option String) : String :=
  match entry.2 with
  | some label => if label = "" then entry.1 else entry.1 ++ " as " ++ label
  | none => entry.1

/-- The FROM clause, empty if nothing is registered. -/
def clause (sources : Sources) : String :=
  if sources.isEmpty then ""
  else "FROM " ++ ", ".intercalate (sources.entries.entries.map entryText)

end Sources

end BoundQuery
