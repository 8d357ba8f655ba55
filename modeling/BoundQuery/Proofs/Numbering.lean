import BoundQuery.Proofs.Expansion

/-!
# Positions of tokens

The positional form of any statement, whatever tokens come again, are bound twice or not at all. The
distinct tokens in order of first appearance decide it: the first one without a value is reported,
before the limit is looked at. Otherwise each token takes as many positions as its value has places,
next to those of the token before it, and keeps them wherever it comes again.

Results:
1. `Statement.tokens_eq`: the token after a prefix of the fragments, in order of first appearance.
2. `Written.step` / `Written.step_unbound`: what one fragment adds, and where it stops.
3. `Written.run`: what a run over the rest of the fragments ends in.
4. `Statement.toPositional_eq_numbered`: the positional form of every statement in closed form.
-/

namespace BoundQuery

namespace Value

/-- How many positions values take together. -/
def totalWidth : List Value → Nat
  | [] => 0
  | v :: vs => v.width + totalWidth vs

theorem length_expansions (vs : List Value) :
    (vs.flatMap Value.expansion).length = totalWidth vs := by
  induction vs with
  | nil => rfl
  | cons v vs ih => rw [List.flatMap_cons, List.length_append, ih, totalWidth, width]

end Value

namespace Statement

/-- The tokens of a statement in order of first appearance. -/
def tokens (s : Statement) : List Token := (tokensOf s.fragments).eraseDups

/-- The parameter table has no entry under the name of the token. -/
def isUnbound (s : Statement) (token : Token) : Bool := (s.value? token).isNone

/-- The values of tokens, in the order of the tokens. -/
def boundValues (s : Statement) (tokens : List Token) : List Value := tokens.filterMap s.value?

/-- The first position of a token: one more than the tokens before it take together. -/
def firstPosition (s : Statement) (token : Token) : Nat :=
  1 + Value.totalWidth (s.boundValues (s.tokens.takeWhile (· ≠ token)))

/-- What stands for a token wherever it appears. -/
def positions (s : Statement) (token : Token) : String :=
  (s.value? token).elim "" (positionsText (s.firstPosition token))

/-- The text of a fragment in positional form. -/
def numbered (s : Statement) : Fragment → String
  | .text t => t
  | .param token => s.positions token

/-! ## Tokens in order of first appearance -/

/-- A new token stands behind those that appeared before it. -/
theorem tokens_eq {s : Statement} {done rest : List Fragment} {token : Token}
    (split : s.fragments = done ++ .param token :: rest) (new : token ∉ tokensOf done) :
    ∃ later, s.tokens = (tokensOf done).eraseDups ++ token :: later := by
  have kept : (token :: tokensOf rest).removeAll (tokensOf done) =
      token :: (tokensOf rest).removeAll (tokensOf done) := by
    simp [List.removeAll, new]
  rw [tokens, split, tokensOf_append, tokensOf_param, List.eraseDups_append, kept,
    List.eraseDups_cons]
  exact ⟨_, rfl⟩

theorem firstPosition_eq {s : Statement} {done rest : List Fragment} {token : Token}
    (split : s.fragments = done ++ .param token :: rest) (new : token ∉ tokensOf done) :
    s.firstPosition token = Value.totalWidth (s.boundValues (tokensOf done).eraseDups) + 1 := by
  obtain ⟨later, order⟩ := tokens_eq split new
  have others : ∀ t ∈ (tokensOf done).eraseDups, decide (t ≠ token) = true := by
    intro t member
    rw [decide_eq_true_eq]
    rintro rfl
    exact new (List.mem_eraseDups.mp member)
  have before : s.tokens.takeWhile (· ≠ token) = (tokensOf done).eraseDups := by
    rw [order, List.takeWhile_append_of_pos others]
    simp
  rw [firstPosition, before, Nat.add_comm]

/-- The first of the distinct tokens without a value is the first such reference. -/
theorem find?_eraseDups (p : Token → Bool) (references : List Token) :
    references.eraseDups.find? p = references.find? p := by
  match references with
  | [] => rfl
  | token :: rest =>
    rw [List.eraseDups_cons, List.find?_cons, List.find?_cons]
    cases found : p token with
    | true => rfl
    | false =>
      have skipped (t : Token) : decide ((!t == token) = true ∧ p t = true) = p t := by
        by_cases same : t = token
        · simp [same, found]
        · simp [same]
      simp only [find?_eraseDups p (rest.filter _), List.find?_filter, skipped]
termination_by references.length
decreasing_by exact Nat.lt_succ_of_le (List.length_filter_le _ _)

end Statement

namespace Placement

/-- What a run has written once the fragments `done` are behind it, all their tokens bound. -/
structure Written (s : Statement) (done : List Fragment) (p : Placement) : Prop where
  bound : ∀ token ∈ tokensOf done, s.isUnbound token = false
  sql : p.sql = String.join (done.map s.numbered)
  values : p.values.toList =
    (s.boundValues (tokensOf done).eraseDups).flatMap Value.expansion
  placed : ∀ token, Table.lookup token p.placed =
    if token ∈ tokensOf done then some (s.positions token) else none

variable {s : Statement} {done rest : List Fragment} {p : Placement}

theorem written_nil : Written s [] {} where
  bound := nofun
  sql := rfl
  values := rfl
  placed _ := rfl

/-- A new token is not among those placed, so the table is asked for it. -/
theorem Written.step_unbound (h : Written s done p) {token : Token}
    (unbound : s.isUnbound token = true) :
    step s p (.param token) = .error (.missingParameter token.name) := by
  have new : token ∉ tokensOf done := by
    intro known
    rw [h.bound token known] at unbound
    cases unbound
  have noValue : s.value? token = none := Option.isNone_iff_eq_none.mp unbound
  simp [step, h.placed, new, noValue]

theorem Written.step_text (h : Written s done p) (t : String) :
    ∃ q, step s p (.text t) = .ok q ∧ Written s (done ++ [.text t]) q := by
  refine ⟨_, rfl, ?_, ?_, ?_, ?_⟩
  · simpa using h.bound
  · simp [h.sql, Statement.numbered]
  · simpa using h.values
  · simpa using h.placed

/-- A token that has appeared before keeps its positions and adds no value. -/
theorem Written.step_known (h : Written s done p) {token : Token} (known : token ∈ tokensOf done) :
    ∃ q, step s p (.param token) = .ok q ∧ Written s (done ++ [.param token]) q := by
  have place : Table.lookup token p.placed = some (s.positions token) := by
    rw [h.placed, if_pos known]
  have references : tokensOf (done ++ [.param token]) = tokensOf done ++ [token] := by simp
  refine ⟨{ p with sql := p.sql ++ s.positions token }, by simp [step, place], ?_, ?_, ?_, ?_⟩
  · intro t member
    rw [references, List.mem_append, List.mem_singleton] at member
    rcases member with old | rfl
    · exact h.bound t old
    · exact h.bound t known
  · simp [h.sql, Statement.numbered]
  · have same : (tokensOf done ++ [token]).eraseDups = (tokensOf done).eraseDups := by
      rw [List.eraseDups_append]
      simp [List.removeAll, known]
    rw [references, same, h.values]
  · intro t
    rw [references, h.placed]
    by_cases equal : t = token
    · simp [equal, known]
    · simp [equal]

/-- A new token takes the positions behind all that are taken. -/
theorem Written.step_new (h : Written s done p) {token : Token}
    (split : s.fragments = done ++ .param token :: rest) (new : token ∉ tokensOf done) {v : Value}
    (value : s.value? token = some v) :
    ∃ q, step s p (.param token) = .ok q ∧ Written s (done ++ [.param token]) q := by
  have size : p.values.size = Value.totalWidth (s.boundValues (tokensOf done).eraseDups) := by
    rw [← Array.length_toList, h.values, Value.length_expansions]
  have text : positionsText (p.values.size + 1) v = s.positions token := by
    rw [Statement.positions, value, Statement.firstPosition_eq split new, size]
    rfl
  have references : tokensOf (done ++ [.param token]) = tokensOf done ++ [token] := by simp
  refine ⟨⟨p.sql ++ s.positions token, p.values ++ v.expansion,
    (token, s.positions token) :: p.placed⟩,
    by simp [step, h.placed, new, value, text, pushValue_eq], ?_, ?_, ?_, ?_⟩
  · intro t member
    rw [references, List.mem_append, List.mem_singleton] at member
    rcases member with old | rfl
    · exact h.bound t old
    · simp [Statement.isUnbound, value]
  · simp [h.sql, Statement.numbered]
  · have order : (tokensOf done ++ [token]).eraseDups = (tokensOf done).eraseDups ++ [token] := by
      rw [List.eraseDups_append]
      simp [List.removeAll, new, List.eraseDups_cons]
    rw [references, order, Array.toList_appendList, h.values]
    simp [Statement.boundValues, value]
  · intro t
    rw [references, Table.lookup, h.placed]
    by_cases equal : token = t
    · simp [equal]
    · simp [equal, Ne.symm equal]

/-- A fragment that is text or has a bound token is written. -/
theorem Written.step (h : Written s done p) {fragment : Fragment}
    (split : s.fragments = done ++ fragment :: rest)
    (bound : ∀ token ∈ fragment.token?, s.isUnbound token = false) :
    ∃ q, Placement.step s p fragment = .ok q ∧ Written s (done ++ [fragment]) q := by
  cases fragment with
  | text t => exact h.step_text t
  | param token =>
    by_cases known : token ∈ tokensOf done
    · exact h.step_known known
    · obtain ⟨v, value⟩ : ∃ v, s.value? token = some v :=
        Option.isSome_iff_exists.mp (by simpa [Statement.isUnbound] using bound token rfl)
      exact h.step_new split known value

/-- The rest is written to its end, or up to its first reference without a value. -/
theorem Written.run (h : Written s done p) (split : s.fragments = done ++ rest) :
    match (tokensOf rest).find? s.isUnbound with
    | some token => Placement.run s p rest = .error (.missingParameter token.name)
    | none => ∃ q, Placement.run s p rest = .ok q ∧ Written s s.fragments q := by
  induction rest generalizing done p with
  | nil => exact ⟨p, rfl, by rwa [split, List.append_nil]⟩
  | cons fragment rest ih =>
    have next (q : Placement) (went : Placement.step s p fragment = .ok q) :
        Placement.run s p (fragment :: rest) = Placement.run s q rest := by
      rw [Placement.run, went]
    have behind : s.fragments = (done ++ [fragment]) ++ rest := by
      rw [split, List.append_assoc, List.singleton_append]
    by_cases bound : ∀ token ∈ fragment.token?, s.isUnbound token = false
    · obtain ⟨q, went, written⟩ := h.step split bound
      have skipped : (tokensOf (fragment :: rest)).find? s.isUnbound =
          (tokensOf rest).find? s.isUnbound := by
        cases fragment with
        | text t => rfl
        | param token => rw [tokensOf_param, List.find?_cons, bound token rfl]
      rw [skipped, next q went]
      exact ih written behind
    · cases fragment with
      | text t => exact absurd nofun bound
      | param token =>
        have unbound : s.isUnbound token = true := by simpa [Fragment.token?] using bound
        rw [tokensOf_param, List.find?_cons, unbound]
        show Placement.run s p (.param token :: rest) = _
        rw [Placement.run, h.step_unbound unbound]

end Placement

namespace Statement

/-- The first token without a value is reported, whatever the limit is. -/
theorem toPositional_of_unbound {s : Statement} {token : Token}
    (missing : s.tokens.find? s.isUnbound = some token) (max : Nat) :
    s.toPositional max = .error (.missingParameter token.name) := by
  have whole : s.fragments = [] ++ s.fragments := rfl
  have ran := Placement.written_nil.run whole
  rw [tokens, find?_eraseDups] at missing
  rw [missing] at ran
  rw [toPositional, ran]

/-- If every token has a value, only the number of the values can exceed the limit. -/
theorem toPositional_of_bound {s : Statement} (bound : s.tokens.find? s.isUnbound = none)
    (max : Nat) :
    s.toPositional max =
      if max < Value.totalWidth (s.boundValues s.tokens) then
        .error (.tooManyParameters (Value.totalWidth (s.boundValues s.tokens)) max)
      else .ok ⟨String.join (s.fragments.map s.numbered),
        (s.boundValues s.tokens).flatMap Value.expansion⟩ := by
  have whole : s.fragments = [] ++ s.fragments := rfl
  have ran := Placement.written_nil.run whole
  rw [tokens, find?_eraseDups] at bound
  rw [bound] at ran
  obtain ⟨p, went, written⟩ := ran
  have values : p.values.toList = (s.boundValues s.tokens).flatMap Value.expansion :=
    written.values
  have size : p.values.size = Value.totalWidth (s.boundValues s.tokens) := by
    rw [← Array.length_toList, values, Value.length_expansions]
  rw [toPositional, went, ← size, ← values, ← written.sql]

/-- The positional form of every statement, for every limit. The first of the distinct tokens that
is bound to nothing is reported. If all are bound, their values take positions in order of first
appearance, lists item by item, and only their number can exceed the limit. Each reference to a
token, the first or a later one, is replaced by the positions of its value. -/
theorem toPositional_eq_numbered (max : Nat) (s : Statement) :
    s.toPositional max =
      match s.tokens.find? s.isUnbound with
      | some token => .error (.missingParameter token.name)
      | none =>
        let values := s.boundValues s.tokens
        if max < Value.totalWidth values then
          .error (.tooManyParameters (Value.totalWidth values) max)
        else .ok ⟨String.join (s.fragments.map s.numbered), values.flatMap Value.expansion⟩ := by
  cases missing : s.tokens.find? s.isUnbound with
  | some token => exact toPositional_of_unbound missing max
  | none => exact toPositional_of_bound missing max

-- A list takes the positions of its items, and a list among them takes one.
example : (⟨[.text "a = ", .param (.own 1), .text " or b in ", .param (.own 0), .text " or c = ",
      .param (.own 1)], ⟨[("_0", .list [.null, .list [.null]]), ("_1", .boolean true)]⟩⟩ :
      Statement).toPositional 3 =
    .ok ⟨"a = $1 or b in ($2, $3) or c = $1", [.boolean true, .null, .list [.null]]⟩ := by rfl

/-- What is handed over keeps to the limit. -/
theorem length_values_le {max : Nat} {s : Statement} {p : Positional}
    (placed : s.toPositional max = .ok p) : p.values.length ≤ max := by
  rw [toPositional] at placed
  split at placed
  · cases placed
  · split at placed
    · cases placed
    · next within =>
      cases placed
      exact Nat.le_of_not_lt within

end Statement

end BoundQuery
