import BoundQuery.Clause.Source
import BoundQuery.Clause.Join
import BoundQuery.Clause.Condition
import BoundQuery.Clause.Select
import BoundQuery.Clause.Ordering
import BoundQuery.Clause.Grouping
import BoundQuery.Statement

/-!
# Statement builders

A builder collects clauses in any order. A value goes into the parameter table under the next
token and only the token goes into the conditions. A nested builder is rendered with its tokens
renamed to merged ones of the parent, whose table takes over the nested values in table order.
-/

namespace BoundQuery

structure Builder where
  sources : Sources := {}
  joins : List Join := []
  conditions : List Condition := []
  select : Option Select := none
  distinct : Bool := false
  ordering : SortFields := {}
  grouping : Grouping := {}
  parameters : Table Token Value := .empty
  counter : Counter := {}
deriving Inhabited

namespace Builder

def empty : Builder := {}

/-! ## Rendering -/

def selectClause (b : Builder) : Buffer :=
  match b.select with
  | some select => Buffer.pushClause {} (select.clause b.distinct)
  | none => {}

/-- The body of the WHERE clause behind its keyword, if there are conditions. -/
def whereClause (buffer : Buffer) (conditions : List Condition) : Buffer :=
  if conditions.isEmpty then buffer
  else Condition.writeAll (buffer.pushClause "WHERE ") conditions

/-- The clauses in their fixed order: select, FROM, joins, WHERE, ORDER BY, GROUP BY, HAVING. -/
def render (b : Builder) : List Fragment :=
  let buffer := (b.selectClause.pushOptional b.sources.clause).pushOptional (Join.clause b.joins)
  let buffer := (whereClause buffer b.conditions).pushOptional b.ordering.clause
  ((buffer.pushOptional b.grouping.groupByClause).pushOptional b.grouping.havingClause).fragments

/-- The text with named placeholders. -/
def text (b : Builder) : String := renderText b.render

/-- The parameter table under token names. -/
def namedParameters (b : Builder) : Table String Value :=
  .ofList (b.parameters.entries.map fun entry => (entry.1.name, entry.2))

def statement (b : Builder) : Statement := ⟨b.render, b.namedParameters⟩

/-- How many tokens were allocated since the start or the last clearing. -/
def tokenCount (b : Builder) : Nat := b.counter.allocated

/-! ## Binding -/

/-- Stores a value under the next token. -/
def bind (b : Builder) (value : Value) : Token × Builder :=
  let (token, counter) := b.counter.nextToken
  (token, { b with parameters := b.parameters.insert token value, counter := counter })

/-- Stores values one by one. -/
def bindAll (b : Builder) : List Value → List Token × Builder
  | [] => ([], b)
  | value :: values =>
    let (token, b) := b.bind value
    let (tokens, b) := b.bindAll values
    (token :: tokens, b)

/-- Takes over a nested value under a merged token. -/
def adopt (b : Builder) (token : Token) (value : Value) : Token × Builder :=
  let (slot, counter) := b.counter.nextSlot
  let renamed := Token.merged token slot
  (renamed, { b with parameters := b.parameters.insert renamed value, counter := counter })

/-- Takes over nested entries in order and notes their new names. -/
def adoptAll (b : Builder) (renames : Table Token Token) :
    List (Token × Value) → Table Token Token × Builder
  | [] => (renames, b)
  | (token, value) :: entries =>
    let (renamed, b) := b.adopt token value
    b.adoptAll (renames.insert token renamed) entries

/-- Takes over the table of a nested builder and renders it under the new names. -/
def merge (b : Builder) (nested : Builder) : List Fragment × Builder :=
  let (renames, b) := b.adoptAll .empty nested.parameters.entries
  (nested.render.map (Fragment.rename renames), b)

/-! ## Calls -/

def addCondition (b : Builder) (condition : Condition) : Builder :=
  { b with conditions := b.conditions ++ [condition] }

/-- Registers a source; a blank name is ignored. -/
def registerSource (b : Builder) (name : String) (aliasName : Option String) : Builder :=
  if Text.allBlank name then b else { b with sources := b.sources.register name aliasName }

def addJoin (b : Builder) (join : Join) : Builder := { b with joins := b.joins ++ [join] }

/-- Compares a field with a bound value. -/
def compare (b : Builder) (field : String) (comparison : Comparison) (value : Value) : Builder :=
  let (token, b) := b.bind value
  b.addCondition (.compare field comparison (.param token))

/-- Compares a field with another field. -/
def compareField (b : Builder) (field : String) (comparison : Comparison) (other : String) :
    Builder :=
  b.addCondition (.compare field comparison (.field other))

/-- Tests for membership with one token for each value. -/
def inValues (b : Builder) (field : String) (values : List Value) (negated : Bool) : Builder :=
  let (tokens, b) := b.bindAll values
  b.addCondition (.oneOf field tokens negated)

/-- Tests for membership with one token for all values. -/
def inList (b : Builder) (field : String) (values : List Value) : Builder :=
  let (token, b) := b.bind (.list values)
  b.addCondition (.inList field token)

/-- Tests the entry of a map; the key is bound first. -/
def mapEquals (b : Builder) (field : String) (key value : Value) : Builder :=
  let (keyToken, b) := b.bind key
  let (valueToken, b) := b.bind value
  b.addCondition (.mapEntry field keyToken valueToken)

/-- Adds a nested statement, as a value set of a field if one is given. -/
def subQuery (b : Builder) (field : Option String) (nested : Builder) : Builder :=
  let (fragments, b) := b.merge nested
  b.addCondition (.subQuery field fragments)

/-- The operand of a map projection. -/
def mapOperand (fields : List (String × String)) : String :=
  ", ".intercalate (fields.map fun entry => entry.1 ++ " as " ++ entry.2)

/-- Resets everything and restarts the tokens. -/
def clear (b : Builder) : Builder :=
  { b with
    sources := {}
    joins := []
    conditions := []
    select := none
    distinct := false
    ordering := {}
    grouping := {}
    parameters := .empty
    counter := b.counter.reset }

/-- Nothing is left of the builder. -/
@[simp] theorem clear_eq_empty (b : Builder) : b.clear = {} := rfl

end Builder

end BoundQuery
