import BoundQuery.Token
import BoundQuery.Table

/-!
# Fragments of a statement

A statement is a list of literal text and token references; no placeholder is ever looked for
inside text. A buffer joins neighbouring text as it grows, so what it holds has no empty text
and no two texts side by side.
-/

namespace BoundQuery

/-- A piece of a rendered statement. -/
inductive Fragment where
  | text (text : String)
  | param (token : Token)
deriving DecidableEq, Repr, Inhabited

namespace Fragment

/-- The token a fragment refers to. -/
def token? : Fragment → Option Token
  | text _ => none
  | param token => some token

/-- Swaps a token for its new name, where it has one. -/
def rename (renames : Table Token Token) : Fragment → Fragment
  | text s => text s
  | param token => param ((renames.find? token).getD token)

/-- The fragment with its placeholder named. -/
def render : Fragment → String
  | text s => s
  | param token => token.placeholder

end Fragment

/-- The references of a fragment list, in order. -/
def tokensOf (fragments : List Fragment) : List Token := fragments.filterMap Fragment.token?

/-- The text of a fragment list with named placeholders. -/
def renderText (fragments : List Fragment) : String := String.join (fragments.map Fragment.render)

/-- A growing fragment list. -/
structure Buffer where
  fragments : List Fragment := []
deriving DecidableEq, Repr, Inhabited

namespace Buffer

/-- Adds text behind a list, into its last text if it ends in one. -/
def appendText (s : String) : List Fragment → List Fragment
  | [] => [.text s]
  | [.text last] => [.text (last ++ s)]
  | fragment :: rest => fragment :: appendText s rest

/-- Adds text; empty text changes nothing. -/
def pushText (buffer : Buffer) (s : String) : Buffer :=
  if s = "" then buffer else ⟨appendText s buffer.fragments⟩

/-- Adds a reference. -/
def pushParam (buffer : Buffer) (token : Token) : Buffer :=
  ⟨buffer.fragments ++ [.param token]⟩

def push (buffer : Buffer) : Fragment → Buffer
  | .text s => buffer.pushText s
  | .param token => buffer.pushParam token

/-- Adds the fragments of another list one by one. -/
def splice (buffer : Buffer) (fragments : List Fragment) : Buffer := fragments.foldl push buffer

/-- Starts a clause, a blank away from what stands before it. -/
def pushClause (buffer : Buffer) (clause : String) : Buffer :=
  (if buffer.fragments.isEmpty then buffer else buffer.pushText " ").pushText clause

/-- Adds a clause unless its text is empty. -/
def pushOptional (buffer : Buffer) (clause : String) : Buffer :=
  if clause = "" then buffer else buffer.pushClause clause

end Buffer

@[simp] theorem tokensOf_nil : tokensOf [] = [] := rfl

@[simp] theorem tokensOf_text (s : String) (rest : List Fragment) :
    tokensOf (.text s :: rest) = tokensOf rest := rfl

@[simp] theorem tokensOf_param (token : Token) (rest : List Fragment) :
    tokensOf (.param token :: rest) = token :: tokensOf rest := rfl

@[simp] theorem tokensOf_append (a b : List Fragment) :
    tokensOf (a ++ b) = tokensOf a ++ tokensOf b := by
  simp [tokensOf]

/-- Renaming fragments renames their references. -/
theorem tokensOf_rename (renames : Table Token Token) (fragments : List Fragment) :
    tokensOf (fragments.map (Fragment.rename renames)) =
      (tokensOf fragments).map fun token => (renames.find? token).getD token := by
  induction fragments with
  | nil => rfl
  | cons fragment rest ih => cases fragment <;> simp [Fragment.rename, ih]

namespace Buffer

theorem tokensOf_appendText (s : String) (fragments : List Fragment) :
    tokensOf (appendText s fragments) = tokensOf fragments := by
  fun_induction appendText s fragments with
  | case1 => simp
  | case2 => simp
  | case3 fragment rest _ ih => cases fragment <;> simp [ih]

@[simp] theorem tokensOf_pushText (buffer : Buffer) (s : String) :
    tokensOf (buffer.pushText s).fragments = tokensOf buffer.fragments := by
  unfold pushText
  split
  · rfl
  · exact tokensOf_appendText s buffer.fragments

@[simp] theorem tokensOf_pushParam (buffer : Buffer) (token : Token) :
    tokensOf (buffer.pushParam token).fragments = tokensOf buffer.fragments ++ [token] := by
  simp [pushParam]

@[simp] theorem tokensOf_splice (buffer : Buffer) (fragments : List Fragment) :
    tokensOf (buffer.splice fragments).fragments =
      tokensOf buffer.fragments ++ tokensOf fragments := by
  induction fragments generalizing buffer with
  | nil => simp [splice]
  | cons fragment rest ih =>
    have step := ih (buffer.push fragment)
    simp only [splice, List.foldl_cons] at step ⊢
    rw [step]
    cases fragment <;> simp [push]

@[simp] theorem tokensOf_pushClause (buffer : Buffer) (clause : String) :
    tokensOf (buffer.pushClause clause).fragments = tokensOf buffer.fragments := by
  unfold pushClause
  split <;> simp

@[simp] theorem tokensOf_pushOptional (buffer : Buffer) (clause : String) :
    tokensOf (buffer.pushOptional clause).fragments = tokensOf buffer.fragments := by
  unfold pushOptional
  split <;> simp

end Buffer

end BoundQuery
