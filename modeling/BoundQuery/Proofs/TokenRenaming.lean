import BoundQuery.Proofs.Numbering
import Mathlib.Data.List.Basic
import Mathlib.Data.List.Find

/-!
# Positional forms under other token names

The positional form finds a repeated reference by its token and a value by the name of the token.
Neither shows in what it makes of a statement. If tokens are renamed so that those that were
different stay different, and a table answers the new names as the old one answered the old names,
the driver is handed the same statement. So a merge may rename the tokens of a nested statement.

Results:
1. `eraseDups_map` / `takeWhile_ne_map`: the order of first appearance under new names.
2. `Renamed.find?_isUnbound`: the same token is the first one without a value.
3. `Renamed.numbered_eq`: each fragment gets the same positions.
4. `sameForm_toPositional`: the positional forms are the same but for the name of a missing token.
-/

namespace BoundQuery

/-- The fragment with another token. -/
def Fragment.mapToken (f : Token → Token) : Fragment → Fragment
  | text s => text s
  | param token => param (f token)

/-- The names given in a merge are such a map. -/
theorem Fragment.rename_eq_mapToken (renames : Table Token Token) :
    Fragment.rename renames =
      Fragment.mapToken fun token => (renames.find? token).getD token := by
  funext fragment
  cases fragment <;> rfl

theorem tokensOf_mapToken (f : Token → Token) (fragments : List Fragment) :
    tokensOf (fragments.map (Fragment.mapToken f)) = (tokensOf fragments).map f := by
  induction fragments with
  | nil => rfl
  | cons fragment rest ih => cases fragment <;> simp [Fragment.mapToken, ih]

/-! ## Order of first appearance -/

/-- New names that keep tokens apart keep the order of first appearance. -/
theorem eraseDups_map {f : Token → Token} (tokens : List Token)
    (apart : ∀ t ∈ tokens, ∀ u ∈ tokens, f t = f u → t = u) :
    (tokens.map f).eraseDups = tokens.eraseDups.map f := by
  match tokens with
  | [] => rfl
  | token :: rest =>
    -- What follows a token goes on without it, so the recursion is on the length.
    have others : (rest.map f).filter (fun t => !t == f token) =
        (rest.filter fun t => !t == token).map f := by
      rw [List.filter_map]
      refine congrArg (List.map f) (List.filter_congr fun t member => ?_)
      have same : f t = f token ↔ t = token :=
        ⟨apart t (List.mem_cons_of_mem _ member) token List.mem_cons_self, congrArg f⟩
      exact Bool.eq_iff_iff.mpr (by simp [same])
    have kept : ∀ t ∈ rest.filter (fun t => !t == token), t ∈ token :: rest := fun t member =>
      List.mem_cons_of_mem _ (List.mem_filter.mp member).1
    rw [List.map_cons, List.eraseDups_cons, List.eraseDups_cons, List.map_cons, others,
      eraseDups_map _ fun t member u member' => apart t (kept t member) u (kept u member')]
termination_by tokens.length
decreasing_by exact Nat.lt_succ_of_le (List.length_filter_le _ _)

theorem takeWhile_ne_map {f : Token → Token} {token : Token} {tokens : List Token}
    (apart : ∀ t ∈ tokens, f t = f token → t = token) :
    (tokens.map f).takeWhile (· ≠ f token) = (tokens.takeWhile (· ≠ token)).map f := by
  induction tokens with
  | nil => rfl
  | cons t rest ih =>
    have later := ih fun u member => apart u (List.mem_cons_of_mem _ member)
    by_cases same : t = token
    · simp [same]
    · have differ : f t ≠ f token := fun equal => same (apart t List.mem_cons_self equal)
      rw [List.map_cons, List.takeWhile_cons_of_pos (by simpa using differ),
        List.takeWhile_cons_of_pos (by simpa using same), List.map_cons, later]

namespace Statement

/-- The second statement is the first one under new token names. Different tokens of it stay
different, and the tables answer the old and the new name of each in the same way. -/
structure Renamed (f : Token → Token) (s s' : Statement) : Prop where
  fragments : s'.fragments = s.fragments.map (Fragment.mapToken f)
  apart : ∀ t ∈ tokensOf s.fragments, ∀ u ∈ tokensOf s.fragments, f t = f u → t = u
  values : ∀ t ∈ tokensOf s.fragments,
    s'.parameters.find? (f t).name = s.parameters.find? t.name

/-- What becomes of the positional form of a statement under new token names: the same statement or
the same excess of values, or the new name of the first token without a value for its old name. -/
inductive SameForm (f : Token → Token) (s : Statement) :
    Except StatementError Positional → Except StatementError Positional → Prop
  | positional (p : Positional) : SameForm f s (.ok p) (.ok p)
  | tooMany (count max : Nat) :
      SameForm f s (.error (.tooManyParameters count max)) (.error (.tooManyParameters count max))
  | missing {token : Token} : (tokensOf s.fragments).find? s.isUnbound = some token →
      SameForm f s (.error (.missingParameter token.name))
        (.error (.missingParameter (f token).name))

namespace Renamed

variable {f : Token → Token} {s s' : Statement}

theorem tokens_eq (h : Renamed f s s') : s'.tokens = s.tokens.map f := by
  rw [tokens, tokens, h.fragments, tokensOf_mapToken, eraseDups_map _ h.apart]

theorem value?_eq (h : Renamed f s s') {token : Token} (member : token ∈ tokensOf s.fragments) :
    s'.value? (f token) = s.value? token := h.values token member

/-- The first token without a value is the same one under its new name. -/
theorem find?_isUnbound (h : Renamed f s s') :
    s'.tokens.find? s'.isUnbound = (s.tokens.find? s.isUnbound).map f := by
  rw [h.tokens_eq, List.find?_map]
  refine congrArg (Option.map f) (List.find?_congr fun token member => ?_)
  rw [Function.comp_apply, isUnbound, isUnbound, h.value?_eq (List.mem_eraseDups.mp member)]

theorem boundValues_eq (h : Renamed f s s') {tokens : List Token}
    (members : ∀ token ∈ tokens, token ∈ tokensOf s.fragments) :
    s'.boundValues (tokens.map f) = s.boundValues tokens := by
  rw [boundValues, boundValues, List.filterMap_map]
  exact List.filterMap_congr fun token member => h.value?_eq (members token member)

theorem firstPosition_eq (h : Renamed f s s') {token : Token}
    (member : token ∈ tokensOf s.fragments) :
    s'.firstPosition (f token) = s.firstPosition token := by
  have before : (s.tokens.map f).takeWhile (· ≠ f token) =
      (s.tokens.takeWhile (· ≠ token)).map f :=
    takeWhile_ne_map fun t earlier => h.apart t (List.mem_eraseDups.mp earlier) token member
  rw [firstPosition, firstPosition, h.tokens_eq, before, h.boundValues_eq fun t earlier => ?_]
  exact List.mem_eraseDups.mp (List.takeWhile_subset _ earlier)

/-- Each fragment is written as it was. -/
theorem numbered_eq (h : Renamed f s s') {fragment : Fragment} (member : fragment ∈ s.fragments) :
    s'.numbered (fragment.mapToken f) = s.numbered fragment := by
  cases fragment with
  | text t => rfl
  | param token =>
    have occurs : token ∈ tokensOf s.fragments :=
      List.mem_filterMap.mpr ⟨.param token, member, rfl⟩
    show s'.positions (f token) = s.positions token
    rw [positions, positions, h.value?_eq occurs, h.firstPosition_eq occurs]

theorem toPositional_of_bound (h : Renamed f s s') (bound : s.tokens.find? s.isUnbound = none)
    (max : Nat) : s'.toPositional max = s.toPositional max := by
  have bound' : s'.tokens.find? s'.isUnbound = none := by rw [h.find?_isUnbound, bound]; rfl
  have text : s'.fragments.map s'.numbered = s.fragments.map s.numbered := by
    rw [h.fragments, List.map_map]
    exact List.map_congr_left fun _ member => h.numbered_eq member
  have values : s'.boundValues s'.tokens = s.boundValues s.tokens := by
    rw [h.tokens_eq]
    exact h.boundValues_eq fun _ => List.mem_eraseDups.mp
  rw [Statement.toPositional_of_bound bound, Statement.toPositional_of_bound bound', text, values]

end Renamed

/-- Token names do not show in the positional form of a statement, whatever the limit: only a
missing value is reported under the new name of its token. -/
theorem sameForm_toPositional {f : Token → Token} {s s' : Statement} (h : Renamed f s s')
    (max : Nat) : SameForm f s (s.toPositional max) (s'.toPositional max) := by
  cases missing : s.tokens.find? s.isUnbound with
  | some token =>
    have missing' : s'.tokens.find? s'.isUnbound = some (f token) := by
      rw [h.find?_isUnbound, missing]
      rfl
    rw [toPositional_of_unbound missing, toPositional_of_unbound missing']
    exact .missing (by rw [← find?_eraseDups]; exact missing)
  | none =>
    rw [h.toPositional_of_bound missing, Statement.toPositional_of_bound missing]
    split
    · exact .tooMany _ _
    · exact .positional _

/-- A nested statement under the names it gets in a merge. The table of the parent has a value of
its own under one of the old names. -/
theorem sameForm_merged :
    let orders : Statement := ⟨[.text "o.total > ", .param (.own 0), .text " and o.state in ",
      .param (.own 1), .text " or o.limit > ", .param (.own 0)],
      ⟨[("_0", .integer 5), ("_1", .list [.text "open", .null])]⟩⟩
    let renames : Table Token Token :=
      ⟨[(.own 0, .merged (.own 0) 4), (.own 1, .merged (.own 1) 5)]⟩
    let f := fun token => (renames.find? token).getD token
    let merged : Statement := ⟨orders.fragments.map (Fragment.rename renames),
      ⟨[("_0", .boolean true), ("sub_1_5", .list [.text "open", .null]), ("sub_0_4", .integer 5)]⟩⟩
    Renamed f orders merged ∧
      SameForm f orders (orders.toPositional 3) (merged.toPositional 3) := by
  intro orders renames f merged
  have renamed : Renamed f orders merged := by
    refine ⟨by rw [← Fragment.rename_eq_mapToken], by decide, fun t member => ?_⟩
    have occurs : t = .own 0 ∨ t = .own 1 ∨ t = .own 0 := by simpa [orders] using member
    rcases occurs with rfl | rfl | rfl <;> rfl
  exact ⟨renamed, sameForm_toPositional renamed 3⟩

end Statement

end BoundQuery
