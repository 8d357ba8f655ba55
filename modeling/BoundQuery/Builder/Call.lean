import BoundQuery.Builder

/-!
# Call sequences

The calls that change a builder, as data. A builder is reachable if some sequence of calls leads
to it from the empty one, with reachable builders as the nested arguments.
-/

namespace BoundQuery

inductive Call where
  | registerSource (name : String) (aliasName : Option String)
  | join (join : Join)
  | compare (field : String) (comparison : Comparison) (value : Value)
  | compareField (field : String) (comparison : Comparison) (other : String)
  | inValues (field : String) (values : List Value) (negated : Bool)
  | inList (field : String) (values : List Value)
  | mapEquals (field : String) (key value : Value)
  | nullTest (field : String) (negated : Bool)
  | connective (connective : Connective)
  | parenthesis (mark : Parenthesis)
  | subQuery (field : Option String) (nested : Builder)
  | select (mode : SelectMode) (operand : Option String)
  | selectMap (fields : List (String × String))
  | distinct
  | orderBy (field : String) (direction : Direction)
  | groupBy (text : String)
  | having (text : String)
  | clear

namespace Builder

/-- The builder after one call. -/
def apply (b : Builder) : Call → Builder
  | .registerSource name aliasName => b.registerSource name aliasName
  | .join join => b.addJoin join
  | .compare field comparison value => b.compare field comparison value
  | .compareField field comparison other => b.compareField field comparison other
  | .inValues field values negated => b.inValues field values negated
  | .inList field values => b.inList field values
  | .mapEquals field key value => b.mapEquals field key value
  | .nullTest field negated => b.addCondition (.nullTest field negated)
  | .connective c => b.addCondition (.connective c)
  | .parenthesis mark => b.addCondition (.parenthesis mark)
  | .subQuery field nested => b.subQuery field nested
  | .select mode operand => { b with select := some ⟨mode, operand⟩ }
  | .selectMap fields => { b with select := some ⟨.newMap, some (mapOperand fields)⟩ }
  | .distinct => { b with distinct := true }
  | .orderBy field direction => { b with ordering := b.ordering.add field direction }
  | .groupBy text => { b with grouping := { b.grouping with groupBy := some text } }
  | .having text => { b with grouping := { b.grouping with having := some text } }
  | .clear => b.clear

/-- The builder after calls in order. -/
def run (b : Builder) (calls : List Call) : Builder := calls.foldl apply b

/-- A builder that calls lead to from the empty one. -/
inductive Reachable : Builder → Prop
  | empty : Reachable {}
  | call {b : Builder} (call : Call) :
      Reachable b → (∀ field nested, call = .subQuery field nested → Reachable nested) →
      Reachable (b.apply call)

end Builder

end BoundQuery
