import BoundQuery.Builder
import Mathlib.Data.List.Basic

/-!
# How a buffer grows

What is written stays. A buffer grows behind the fragments it holds, and of these only a text at the
very end may become longer. What a condition renders is a row of pieces that does not depend on the
buffer, so the body of WHERE refers to the tokens of its conditions, one after another, behind every
reference that was there.

Results:
1. `Extends.trans` / `Buffer.extends_splice`: growing is a preorder, and a splice is a step of it.
2. `Condition.write_eq_splice`: rendering a condition is splicing its pieces.
3. `Extends.getElem?_param` / `Extends.getElem?_text`: where the old fragments are found again.
4. `Condition.body_extends`: what the body of WHERE adds to a buffer, and what it leaves.
-/

namespace BoundQuery

/-- A text at the end made longer; a list that ends in a reference is left as it is. -/
def lengthen (more : String) : List Fragment → List Fragment
  | [] => []
  | [.text last] => [.text (last ++ more)]
  | fragment :: rest => fragment :: lengthen more rest

/-- A list that starts with the fragments of another one, of which the last text may be longer. -/
def Extends (front whole : List Fragment) : Prop :=
  ∃ more rest, whole = lengthen more front ++ rest

/-- Only the end of a list matters. -/
theorem lengthen_append (more : String) (front : List Fragment) {back : List Fragment}
    (ends : back ≠ []) : lengthen more (front ++ back) = front ++ lengthen more back := by
  induction front with
  | nil => rfl
  | cons fragment front ih =>
    rw [List.cons_append, lengthen, ih]
    · rfl
    · simp [ends]

@[simp] theorem lengthen_concat_text (more : String) (front : List Fragment) (last : String) :
    lengthen more (front ++ [.text last]) = front ++ [.text (last ++ more)] :=
  lengthen_append more front (List.cons_ne_nil _ _)

@[simp] theorem lengthen_concat_param (more : String) (front : List Fragment) (token : Token) :
    lengthen more (front ++ [.param token]) = front ++ [.param token] :=
  lengthen_append more front (List.cons_ne_nil _ _)

/-- A list is empty, or it ends in a text, or it ends in a reference. -/
theorem ending_cases (fragments : List Fragment) :
    fragments = [] ∨ (∃ front last, fragments = front ++ [.text last]) ∨
      ∃ front token, fragments = front ++ [.param token] := by
  obtain rfl | ⟨front, fragment, rfl⟩ := List.eq_nil_or_concat' fragments
  · exact .inl rfl
  · cases fragment with
    | text last => exact .inr (.inl ⟨front, last, rfl⟩)
    | param token => exact .inr (.inr ⟨front, token, rfl⟩)

theorem lengthen_empty (fragments : List Fragment) : lengthen "" fragments = fragments := by
  obtain rfl | ⟨front, last, rfl⟩ | ⟨front, token, rfl⟩ := ending_cases fragments
  · rfl
  · rw [lengthen_concat_text, String.append_empty]
  · rw [lengthen_concat_param]

theorem lengthen_lengthen (more next : String) (fragments : List Fragment) :
    lengthen next (lengthen more fragments) = lengthen (more ++ next) fragments := by
  obtain rfl | ⟨front, last, rfl⟩ | ⟨front, token, rfl⟩ := ending_cases fragments
  · rfl
  · simp [String.append_assoc]
  · simp

@[simp] theorem length_lengthen (more : String) (fragments : List Fragment) :
    (lengthen more fragments).length = fragments.length := by
  obtain rfl | ⟨front, last, rfl⟩ | ⟨front, token, rfl⟩ := ending_cases fragments
  · rfl
  · simp
  · simp

@[simp] theorem tokensOf_lengthen (more : String) (fragments : List Fragment) :
    tokensOf (lengthen more fragments) = tokensOf fragments := by
  obtain rfl | ⟨front, last, rfl⟩ | ⟨front, token, rfl⟩ := ending_cases fragments
  · rfl
  · simp
  · simp

namespace Extends

variable {front middle whole : List Fragment}

theorem refl (front : List Fragment) : Extends front front :=
  ⟨"", [], by rw [lengthen_empty, List.append_nil]⟩

theorem trans (first : Extends front middle) (second : Extends middle whole) :
    Extends front whole := by
  obtain ⟨more, between, rfl⟩ := first
  obtain ⟨next, rest, rfl⟩ := second
  by_cases followed : between = []
  · refine ⟨more ++ next, rest, ?_⟩
    rw [followed, List.append_nil, lengthen_lengthen]
  · refine ⟨more, lengthen next between ++ rest, ?_⟩
    rw [lengthen_append next _ followed, List.append_assoc]

/-- Behind the old fragments stand the new references. -/
theorem tokensOf_drop (h : Extends front whole) :
    tokensOf whole = tokensOf front ++ tokensOf (whole.drop front.length) := by
  obtain ⟨more, rest, rfl⟩ := h
  rw [tokensOf_append, tokensOf_lengthen, List.drop_left' (length_lengthen more front)]

/-- An old fragment is where it was, unless it is a text at the end that is longer now. -/
theorem getElem?_cases (h : Extends front whole) {i : Nat} {fragment : Fragment}
    (there : front[i]? = some fragment) :
    whole[i]? = some fragment ∨ ∃ last more, fragment = .text last ∧ i + 1 = front.length ∧
      whole[i]? = some (.text (last ++ more)) := by
  obtain ⟨more, rest, rfl⟩ := h
  have inside : i < front.length := (List.getElem?_eq_some_iff.mp there).1
  rw [List.getElem?_append_left (by simpa using inside)]
  obtain rfl | ⟨before, last, rfl⟩ | ⟨before, token, rfl⟩ := ending_cases front
  · exact .inl there
  · rw [lengthen_concat_text]
    rw [List.length_append, List.length_singleton] at inside
    by_cases early : i < before.length
    · rw [List.getElem?_append_left early] at there ⊢
      exact .inl there
    · obtain rfl : i = before.length := by omega
      rw [List.getElem?_concat_length] at there ⊢
      exact .inr ⟨last, more, (Option.some.inj there).symm, by simp, rfl⟩
  · rw [lengthen_concat_param]
    exact .inl there

theorem getElem?_param (h : Extends front whole) {i : Nat} {token : Token}
    (there : front[i]? = some (.param token)) : whole[i]? = some (.param token) := by
  obtain same | ⟨_, _, text, _⟩ := h.getElem?_cases there
  · exact same
  · cases text

theorem getElem?_text (h : Extends front whole) {i : Nat} {s : String}
    (there : front[i]? = some (.text s)) :
    ∃ more, whole[i]? = some (.text (s ++ more)) ∧ (i + 1 < front.length → more = "") := by
  obtain same | ⟨last, more, text, ends, longer⟩ := h.getElem?_cases there
  · exact ⟨"", by rw [same, String.append_empty], fun _ => rfl⟩
  · cases text
    exact ⟨more, longer, fun early => absurd ends (Nat.ne_of_lt early)⟩

end Extends

/-! ## Buffers -/

namespace Buffer

/-- New text sees only the end of a list. -/
theorem appendText_append (s : String) (front : List Fragment) {back : List Fragment}
    (ends : back ≠ []) : appendText s (front ++ back) = front ++ appendText s back := by
  induction front with
  | nil => rfl
  | cons fragment front ih =>
    rw [List.cons_append, appendText, ih]
    · rfl
    · simp [ends]

theorem appendText_concat_text (s : String) (front : List Fragment) (last : String) :
    appendText s (front ++ [.text last]) = front ++ [.text (last ++ s)] :=
  appendText_append s front (List.cons_ne_nil _ _)

theorem appendText_concat_param (s : String) (front : List Fragment) (token : Token) :
    appendText s (front ++ [.param token]) = front ++ [.param token, .text s] :=
  appendText_append s front (List.cons_ne_nil _ _)

theorem extends_appendText (s : String) (fragments : List Fragment) :
    Extends fragments (appendText s fragments) := by
  obtain rfl | ⟨front, last, rfl⟩ | ⟨front, token, rfl⟩ := ending_cases fragments
  · exact ⟨"", [.text s], rfl⟩
  · exact ⟨s, [], by rw [appendText_concat_text, lengthen_concat_text, List.append_nil]⟩
  · refine ⟨"", [.text s], ?_⟩
    rw [appendText_concat_param, lengthen_concat_param, List.append_assoc]
    rfl

theorem extends_pushText (buffer : Buffer) (s : String) :
    Extends buffer.fragments (buffer.pushText s).fragments := by
  unfold pushText
  split
  · exact .refl _
  · exact extends_appendText s _

theorem extends_pushClause (buffer : Buffer) (clause : String) :
    Extends buffer.fragments (buffer.pushClause clause).fragments := by
  unfold pushClause
  split
  · exact buffer.extends_pushText clause
  · exact (buffer.extends_pushText " ").trans (extends_pushText _ clause)

theorem extends_pushOptional (buffer : Buffer) (clause : String) :
    Extends buffer.fragments (buffer.pushOptional clause).fragments := by
  unfold pushOptional
  split
  · exact .refl _
  · exact buffer.extends_pushClause clause

theorem extends_push (buffer : Buffer) (fragment : Fragment) :
    Extends buffer.fragments (buffer.push fragment).fragments := by
  cases fragment with
  | text s => exact buffer.extends_pushText s
  | param token => exact ⟨"", [.param token], by rw [lengthen_empty]; rfl⟩

theorem splice_cons (buffer : Buffer) (fragment : Fragment) (rest : List Fragment) :
    buffer.splice (fragment :: rest) = (buffer.push fragment).splice rest := rfl

theorem splice_append (buffer : Buffer) (front back : List Fragment) :
    buffer.splice (front ++ back) = (buffer.splice front).splice back :=
  List.foldl_append

theorem extends_splice (buffer : Buffer) (fragments : List Fragment) :
    Extends buffer.fragments (buffer.splice fragments).fragments := by
  induction fragments generalizing buffer with
  | nil => exact .refl _
  | cons fragment rest ih => exact (buffer.extends_push fragment).trans (ih _)

end Buffer

/-! ## Conditions -/

namespace Condition

/-- References with a comma and a blank between. -/
def listed : List Token → List Fragment
  | [] => []
  | [token] => [.param token]
  | token :: next :: rest => .param token :: .text ", " :: listed (next :: rest)

/-- The pieces a condition is rendered from. -/
def pieces : Condition → List Fragment
  | compare field comparison (.param token) =>
    [.text (field ++ " " ++ comparison.symbol ++ " "), .param token]
  | compare field comparison (.field other) =>
    [.text (field ++ " " ++ comparison.symbol ++ " "), .text other]
  | oneOf field tokens negated =>
    .text (field ++ if negated then " not in (" else " in (") :: (listed tokens ++ [.text ")"])
  | inList field token => [.text (field ++ " in "), .param token]
  | nullTest field negated =>
    [.text (" " ++ field ++ if negated then " is not null " else " is null ")]
  | mapEntry field key value =>
    [.text (field ++ "["), .param key, .text "] = ", .param value]
  | connective c => [.text c.text]
  | parenthesis mark => [.text mark.text]
  | subQuery field fragments =>
    (field.map fun field => .text (field ++ " in ")).toList ++
      .text "(" :: (fragments ++ [.text ")"])

theorem writeTokens_eq_splice (buffer : Buffer) (tokens : List Token) :
    writeTokens buffer tokens = buffer.splice (listed tokens) := by
  fun_induction writeTokens buffer tokens with
  | case1 buffer => rfl
  | case2 buffer token => rfl
  | case3 buffer token next rest ih => exact ih

theorem write_eq_splice (buffer : Buffer) (condition : Condition) :
    write buffer condition = buffer.splice condition.pieces := by
  cases condition with
  | compare field comparison operand => cases operand <;> rfl
  | oneOf field tokens negated =>
    rw [write, pieces, Buffer.splice_cons, Buffer.splice_append, writeTokens_eq_splice]
    rfl
  | subQuery field fragments =>
    rw [pieces, Buffer.splice_append, Buffer.splice_cons, Buffer.splice_append]
    cases field <;> rfl
  | _ => rfl

/-- The body of WHERE is spliced from the pieces of its conditions. -/
theorem writeAll_eq_splice (buffer : Buffer) (conditions : List Condition) :
    writeAll buffer conditions = buffer.splice (conditions.flatMap pieces) := by
  induction conditions generalizing buffer with
  | nil => rfl
  | cons condition rest ih =>
    rw [List.flatMap_cons, Buffer.splice_append, ← write_eq_splice, ← ih]
    rfl

/-- The body of WHERE adds the references of its conditions, in their order and as often as they
occur, behind what the buffer holds. No reference moves, and a text is at most continued, if it is
the last fragment. -/
theorem body_extends (buffer : Buffer) (conditions : List Condition) :
    let body := conditions.flatMap tokens
    let written := (writeAll buffer conditions).fragments
    tokensOf written = tokensOf buffer.fragments ++ body ∧
      tokensOf (written.drop buffer.fragments.length) = body ∧
      (∀ (i : Nat) token, buffer.fragments[i]? = some (.param token) →
        written[i]? = some (.param token)) ∧
      ∀ (i : Nat) s, buffer.fragments[i]? = some (.text s) →
        ∃ more, written[i]? = some (.text (s ++ more)) ∧
          (i + 1 < buffer.fragments.length → more = "") := by
  intro body written
  have references : tokensOf written = tokensOf buffer.fragments ++ body :=
    tokensOf_writeAll buffer conditions
  have grown : Extends buffer.fragments (writeAll buffer conditions).fragments := by
    rw [writeAll_eq_splice]
    exact buffer.extends_splice _
  refine ⟨references, ?_, fun i token => grown.getElem?_param, fun i s => grown.getElem?_text⟩
  rw [grown.tokensOf_drop] at references
  exact List.append_cancel_left references

/-- A statement cut off behind its WHERE, with a reference in it. -/
def begun : Buffer := ⟨[.text "SELECT nullif(id, ", .param (.own 0), .text ") FROM t WHERE "]⟩

/-- A condition that refers to one token twice, and a nested statement with a loose blank. -/
def mixedBody : List Condition :=
  [.oneOf "id" [.own 2, .own 1, .own 2] true, .connective .and,
    .mapEntry "labels" (.own 3) (.own 4), .connective .or,
    .subQuery (some "owner") [.text "SELECT ", .text "", .param (.merged (.own 0) 5), .text " "]]

theorem body_extends_begun :
    let written := (writeAll begun mixedBody).fragments
    begun.fragments[1]? = some (.param (.own 0)) ∧ written[1]? = some (.param (.own 0)) ∧
      begun.fragments[2]? = some (.text ") FROM t WHERE ") ∧
      (∃ more, written[2]? = some (.text (") FROM t WHERE " ++ more))) ∧
      tokensOf (written.drop 3) =
        [.own 2, .own 1, .own 2, .own 3, .own 4, .merged (.own 0) 5] := by
  obtain ⟨_, added, kept, continued⟩ := body_extends begun mixedBody
  obtain ⟨more, longer, _⟩ := continued 2 ") FROM t WHERE " rfl
  exact ⟨rfl, kept 1 (.own 0) rfl, rfl, ⟨more, longer⟩, added⟩

end Condition

end BoundQuery
