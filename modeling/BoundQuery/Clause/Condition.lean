import BoundQuery.Fragment

/-!
# Conditions

The body of a WHERE clause is a flat sequence. Connectives and parentheses are elements of it
like the comparisons, so the sequence need not be balanced.

Main statement: `tokensOf_writeAll`, what the conditions refer to is what they render.
-/

namespace BoundQuery

inductive Comparison where
  | equal
  | notEqual
  | greater
  | greaterOrEqual
  | less
  | lessOrEqual
  | like
deriving DecidableEq, Repr, Inhabited

def Comparison.symbol : Comparison → String
  | equal => "="
  | notEqual => "!="
  | greater => ">"
  | greaterOrEqual => ">="
  | less => "<"
  | lessOrEqual => "<="
  | like => "like"

inductive Connective where
  | and
  | or
  | not
deriving DecidableEq, Repr, Inhabited

/-- The connective with the blanks around it. -/
def Connective.text : Connective → String
  | and => " and "
  | or => " or "
  | not => " not "

inductive Parenthesis where
  | opening
  | closing
deriving DecidableEq, Repr, Inhabited

def Parenthesis.text : Parenthesis → String
  | opening => "("
  | closing => ")"

/-- The right side of a comparison. -/
inductive Operand where
  /-- A bound value. -/
  | param (token : Token)
  /-- Another field, written as it is. -/
  | field (name : String)
deriving DecidableEq, Repr, Inhabited

/-- An element of a WHERE sequence. -/
inductive Condition where
  | compare (field : String) (comparison : Comparison) (operand : Operand)
  /-- Membership in values of one token each. -/
  | oneOf (field : String) (tokens : List Token) (negated : Bool)
  /-- Membership in a collection bound to one token. -/
  | inList (field : String) (token : Token)
  | nullTest (field : String) (negated : Bool)
  /-- The entry of a map under a bound key has a bound value. -/
  | mapEntry (field : String) (key value : Token)
  | connective (connective : Connective)
  | parenthesis (mark : Parenthesis)
  /-- A nested statement whose tokens are named in this one. -/
  | subQuery (field : Option String) (fragments : List Fragment)
deriving DecidableEq, Repr, Inhabited

namespace Condition

/-- The field a condition is about. -/
def field? : Condition → Option String
  | compare field _ _ => some field
  | oneOf field _ _ => some field
  | inList field _ => some field
  | nullTest field _ => some field
  | mapEntry field _ _ => some field
  | connective _ => none
  | parenthesis _ => none
  | subQuery field _ => field

/-- The tokens a condition refers to, in the order of its text. -/
def tokens : Condition → List Token
  | compare _ _ (.param token) => [token]
  | compare _ _ (.field _) => []
  | oneOf _ tokens _ => tokens
  | inList _ token => [token]
  | nullTest _ _ => []
  | mapEntry _ key value => [key, value]
  | connective _ => []
  | parenthesis _ => []
  | subQuery _ fragments => tokensOf fragments

/-- Tokens with a comma and a blank between. -/
def writeTokens (buffer : Buffer) : List Token → Buffer
  | [] => buffer
  | [token] => buffer.pushParam token
  | token :: next :: rest => writeTokens ((buffer.pushParam token).pushText ", ") (next :: rest)

/-- Renders a condition behind a buffer. -/
def write (buffer : Buffer) : Condition → Buffer
  | compare field comparison operand =>
    let buffer := buffer.pushText (field ++ " " ++ comparison.symbol ++ " ")
    match operand with
    | .param token => buffer.pushParam token
    | .field name => buffer.pushText name
  | oneOf field tokens negated =>
    let keyword := if negated then " not in (" else " in ("
    (writeTokens (buffer.pushText (field ++ keyword)) tokens).pushText ")"
  | inList field token => (buffer.pushText (field ++ " in ")).pushParam token
  | nullTest field negated =>
    buffer.pushText (" " ++ field ++ (if negated then " is not null " else " is null "))
  | mapEntry field key value =>
    (((buffer.pushText (field ++ "[")).pushParam key).pushText "] = ").pushParam value
  | connective c => buffer.pushText c.text
  | parenthesis mark => buffer.pushText mark.text
  | subQuery field fragments =>
    let buffer := match field with
      | some field => buffer.pushText (field ++ " in ")
      | none => buffer
    ((buffer.pushText "(").splice fragments).pushText ")"

/-- Renders conditions one after another. -/
def writeAll (buffer : Buffer) (conditions : List Condition) : Buffer :=
  conditions.foldl write buffer

theorem tokensOf_writeTokens (buffer : Buffer) (tokens : List Token) :
    tokensOf (writeTokens buffer tokens).fragments = tokensOf buffer.fragments ++ tokens := by
  fun_induction writeTokens buffer tokens with
  | case1 => simp
  | case2 => simp
  | case3 buffer token next rest ih =>
    simp [ih]

theorem tokensOf_write (buffer : Buffer) (condition : Condition) :
    tokensOf (write buffer condition).fragments =
      tokensOf buffer.fragments ++ condition.tokens := by
  cases condition with
  | compare field comparison operand =>
    cases operand <;> simp [write, tokens]
  | oneOf field tokens negated =>
    simp [write, Condition.tokens, tokensOf_writeTokens]
  | inList field token => simp [write, tokens]
  | nullTest field negated => simp [write, tokens]
  | mapEntry field key value => simp [write, tokens]
  | connective c => simp [write, tokens]
  | parenthesis mark => simp [write, tokens]
  | subQuery field fragments =>
    cases field <;> simp [write, tokens]

/-- The references a sequence renders are those of its conditions, in order. -/
theorem tokensOf_writeAll (buffer : Buffer) (conditions : List Condition) :
    tokensOf (writeAll buffer conditions).fragments =
      tokensOf buffer.fragments ++ conditions.flatMap tokens := by
  induction conditions generalizing buffer with
  | nil => simp [writeAll]
  | cons condition rest ih =>
    have step := ih (write buffer condition)
    simp only [writeAll, List.foldl_cons] at step ⊢
    rw [step, tokensOf_write]
    simp

end Condition

end BoundQuery
