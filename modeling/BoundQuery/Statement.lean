import BoundQuery.Fragment
import BoundQuery.Value

/-!
# Statements

A statement is a fragment list and the table of the values its tokens stand for. In positional
form each token is replaced by `$n`, a list by the positions of its items in parentheses; a token
that comes again takes the positions it already has.
-/

namespace BoundQuery

/-- Why a statement has no positional form. -/
inductive StatementError where
  /-- A token is in the text and not in the table. -/
  | missingParameter (name : String)
  /-- The values, lists expanded, are more than the limit. -/
  | tooManyParameters (count max : Nat)
deriving DecidableEq, Repr

def StatementError.message : StatementError → String
  | missingParameter name => "Statement references token '" ++ name ++ "' with no bound value"
  | tooManyParameters count max =>
    "Too many bound parameters: " ++ count.repr ++ " (max " ++ max.repr ++ ")"

/-- A statement in positional form. -/
structure Positional where
  sql : String
  values : List Value

/-- Fragments with the values of their tokens, by name. -/
structure Statement where
  fragments : List Fragment
  parameters : Table String Value

namespace Statement

/-- The text with named placeholders. -/
def text (s : Statement) : String := renderText s.fragments

/-- The value bound to a token. -/
def value? (s : Statement) (token : Token) : Option Value := s.parameters.find? token.name

end Statement

/-- The text of a position. -/
def positionText (n : Nat) : String := "$" ++ n.repr

/-- Pushes the items of a list one by one and notes the position that each one gets. -/
def pushItems (values : Array Value) : List Value → List String × Array Value
  | [] => ([], values)
  | item :: items =>
    let values := values.push item
    let (positions, all) := pushItems values items
    (positionText values.size :: positions, all)

/-- Pushes a bound value, with what its token is replaced by. -/
def pushValue (values : Array Value) : Value → String × Array Value
  | .list items =>
    let (positions, values) := pushItems values items
    ("(" ++ ", ".intercalate positions ++ ")", values)
  | v =>
    let values := values.push v
    (positionText values.size, values)

/-- What has been written so far, and the texts of the tokens met. -/
structure Placement where
  sql : String := ""
  values : Array Value := #[]
  placed : List (Token × String) := []

namespace Placement

/-- Writes one fragment. -/
def step (s : Statement) (p : Placement) : Fragment → Except StatementError Placement
  | .text t => .ok { p with sql := p.sql ++ t }
  | .param token =>
    match Table.lookup token p.placed with
    | some known => .ok { p with sql := p.sql ++ known }
    | none =>
      match s.value? token with
      | none => .error (.missingParameter token.name)
      | some v =>
        let (placeholder, values) := pushValue p.values v
        .ok ⟨p.sql ++ placeholder, values, (token, placeholder) :: p.placed⟩

/-- Writes fragments in order until one fails. -/
def run (s : Statement) (p : Placement) : List Fragment → Except StatementError Placement
  | [] => .ok p
  | fragment :: rest =>
    match step s p fragment with
    | .ok p => run s p rest
    | .error e => .error e

end Placement

/-- The positional form, for at most `max` values. A missing value is found before the limit. -/
def Statement.toPositional (max : Nat) (s : Statement) : Except StatementError Positional :=
  match Placement.run s {} s.fragments with
  | .error e => .error e
  | .ok p =>
    if max < p.values.size then .error (.tooManyParameters p.values.size max)
    else .ok ⟨p.sql, p.values.toList⟩

end BoundQuery
