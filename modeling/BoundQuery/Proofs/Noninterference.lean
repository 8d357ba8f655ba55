import BoundQuery.Proofs.References
import BoundQuery.Proofs.Numbering
import Mathlib.Data.List.Find
import Mathlib.Data.List.TakeWhile

/-!
# Values do not interfere with text

Two runs that differ in bound values only cannot be told apart by the statement text: a value goes
into the table, and the text sees nothing of the table but its keys. In positional form it sees
one thing more, how many places a value takes.

Results:
1. `Twins`: a pair of runs that make the same calls with other values.
2. `Twins.sameShape`: twins agree in everything but the values of the table.
3. `Statement.SameWidths.outline_eq` / `outline_toPositional`: the positional text depends on values
   through their list lengths only.
4. `values_do_not_interfere`: what an observer of text, tokens and positions sees of twins is equal.
-/

namespace BoundQuery

/-! ## Positional form -/

/-- The length of a list; values of other kinds have none. -/
def Value.listLength? (v : Value) : Option Nat := v.items?.map List.length

/-- What is seen of a positional form without its values. -/
def Positional.outline (p : Positional) : String × Nat := (p.sql, p.values.length)

theorem positionsText_congr (start : Nat) {v w : Value} (lengths : v.listLength? = w.listLength?) :
    positionsText start v = positionsText start w := by
  have shape (u : Value) : positionsText start u =
      match u.listLength? with
      | some n => "(" ++ ", ".intercalate ((List.range' start n).map positionText) ++ ")"
      | none => positionText start := by
    cases u <;> rfl
  rw [shape, shape, lengths]

theorem expansion_length_congr {v w : Value} (lengths : v.listLength? = w.listLength?) :
    v.expansion.length = w.expansion.length := by
  have shape (u : Value) : u.expansion.length = u.listLength?.getD 1 := by
    cases u <;> rfl
  rw [shape, shape, lengths]

/-- Results that look the same through `f` are one error, or two values that look the same. -/
theorem cases_of_map_eq {ε α β : Type} {f : α → β} {x y : Except ε α} (same : x.map f = y.map f) :
    (∃ e, x = .error e ∧ y = .error e) ∨ ∃ a b, x = .ok a ∧ y = .ok b ∧ f a = f b := by
  cases x with
  | error e =>
    cases y with
    | error e' => exact .inl ⟨e, rfl, congrArg Except.error (Except.error.inj same).symm⟩
    | ok b => cases same
  | ok a =>
    cases y with
    | error e' => cases same
    | ok b => exact .inr ⟨a, b, rfl, rfl, Except.ok.inj same⟩

namespace Statement

/-- Two statements of the same fragments. Each token they refer to is bound in neither of them, in
both to lists of one length, or in both to values that are no lists. -/
structure SameWidths (s s' : Statement) : Prop where
  fragments : s.fragments = s'.fragments
  lengths : ∀ token ∈ tokensOf s.fragments,
    (s.value? token).map Value.listLength? = (s'.value? token).map Value.listLength?

namespace SameWidths

variable {s s' : Statement}

theorem tokens_eq (h : SameWidths s s') : s.tokens = s'.tokens := by
  rw [tokens, tokens, h.fragments]

/-- A token is bound in both statements, to values of one list length, or in neither. -/
theorem value?_cases (h : SameWidths s s') {token : Token} (member : token ∈ tokensOf s.fragments) :
    (s.value? token = none ∧ s'.value? token = none) ∨
      ∃ v w, s.value? token = some v ∧ s'.value? token = some w ∧
        v.listLength? = w.listLength? := by
  have found := h.lengths token member
  cases value : s.value? token with
  | none =>
    rw [value, Option.map_none, eq_comm, Option.map_eq_none_iff] at found
    exact .inl ⟨rfl, found⟩
  | some v =>
    rw [value, Option.map_some, eq_comm, Option.map_eq_some_iff] at found
    obtain ⟨w, value', equal⟩ := found
    exact .inr ⟨v, w, rfl, value', equal.symm⟩

theorem isUnbound_eq (h : SameWidths s s') {token : Token} (member : token ∈ tokensOf s.fragments) :
    s.isUnbound token = s'.isUnbound token := by
  rw [isUnbound, isUnbound]
  obtain ⟨none, none'⟩ | ⟨v, w, some, some', _⟩ := h.value?_cases member
  · rw [none, none']
  · rw [some, some']
    rfl

theorem totalWidth_eq (h : SameWidths s s') {tokens : List Token}
    (members : ∀ token ∈ tokens, token ∈ tokensOf s.fragments) :
    Value.totalWidth (s.boundValues tokens) = Value.totalWidth (s'.boundValues tokens) := by
  induction tokens with
  | nil => rfl
  | cons token rest ih =>
    have others := ih fun t member => members t (List.mem_cons_of_mem _ member)
    simp only [boundValues] at others
    simp only [boundValues, List.filterMap_cons]
    obtain ⟨none, none'⟩ | ⟨v, w, some, some', equal⟩ := h.value?_cases (members token List.mem_cons_self)
    · rw [none, none']
      exact others
    · rw [some, some']
      simp only [Value.totalWidth, Value.width, expansion_length_congr equal, others]

theorem positions_eq (h : SameWidths s s') {token : Token} (member : token ∈ tokensOf s.fragments) :
    s.positions token = s'.positions token := by
  have start : s.firstPosition token = s'.firstPosition token := by
    rw [firstPosition, firstPosition, ← h.tokens_eq, h.totalWidth_eq fun t before => ?_]
    exact List.mem_eraseDups.mp (List.takeWhile_subset _ before)
  rw [positions, positions, start]
  obtain ⟨none, none'⟩ | ⟨v, w, some, some', equal⟩ := h.value?_cases member
  · rw [none, none']
  · rw [some, some']
    exact positionsText_congr _ equal

theorem numbered_eq (h : SameWidths s s') {fragment : Fragment} (member : fragment ∈ s.fragments) :
    s.numbered fragment = s'.numbered fragment := by
  cases fragment with
  | text t => rfl
  | param token => exact h.positions_eq (List.mem_filterMap.mpr ⟨.param token, member, rfl⟩)

/-- The outline of a positional form comes from fragments and list lengths alone. -/
theorem outline_eq (h : SameWidths s s') (max : Nat) :
    (s.toPositional max).map Positional.outline =
      (s'.toPositional max).map Positional.outline := by
  have members : ∀ token ∈ s.tokens, token ∈ tokensOf s.fragments :=
    fun _ => List.mem_eraseDups.mp
  have missing : s.tokens.find? s.isUnbound = s'.tokens.find? s'.isUnbound := by
    rw [← h.tokens_eq]
    exact List.find?_congr fun token member => h.isUnbound_eq (members token member)
  have text : s.fragments.map s.numbered = s'.fragments.map s'.numbered := by
    rw [← h.fragments]
    exact List.map_congr_left fun _ member => h.numbered_eq member
  have width := h.totalWidth_eq members
  cases found : s.tokens.find? s.isUnbound with
  | some token =>
    rw [toPositional_of_unbound found, toPositional_of_unbound (missing ▸ found)]
  | none =>
    rw [toPositional_of_bound found, toPositional_of_bound (missing ▸ found), ← h.tokens_eq, ← width,
      text]
    split
    · rfl
    · simp only [Except.map, Positional.outline, Value.length_expansions, width]

end SameWidths

end Statement

theorem outline_toPositional {s s' : Statement} (fragments : s.fragments = s'.fragments)
    (lengths : ∀ token, (s.value? token).map Value.listLength? =
      (s'.value? token).map Value.listLength?) (max : Nat) :
    (s.toPositional max).map Positional.outline = (s'.toPositional max).map Positional.outline :=
  Statement.SameWidths.outline_eq ⟨fragments, fun token _ => lengths token⟩ max

/-! ## Pairs of runs -/

/-- The same call but for the values it binds; merges are left to `Twins`. -/
inductive Call.SameText : Call → Call → Prop
  | compare (field : String) (comparison : Comparison) (v w : Value) :
      SameText (.compare field comparison v) (.compare field comparison w)
  | inValues (field : String) (negated : Bool) {vs ws : List Value} :
      vs.length = ws.length → SameText (.inValues field vs negated) (.inValues field ws negated)
  | inList (field : String) (vs ws : List Value) :
      SameText (.inList field vs) (.inList field ws)
  | mapEquals (field : String) (k v k' v' : Value) :
      SameText (.mapEquals field k v) (.mapEquals field k' v')
  | plain (call : Call) :
      (∀ field nested, call ≠ .subQuery field nested) → SameText call call

namespace Builder

/-- Two runs from the start that make the same calls and differ in bound values only. Nested
builders come from such runs too. -/
inductive Twins : Builder → Builder → Prop
  | empty : Twins {} {}
  | call {b b' : Builder} {c c' : Call} : Twins b b' → c.SameText c' → Twins (b.apply c) (b'.apply c')
  | merge {b b' n n' : Builder} (field : Option String) : Twins b b' → Twins n n' →
      Twins (b.apply (.subQuery field n)) (b'.apply (.subQuery field n'))

/-- Equal but for the values of the table. -/
structure SameShape (b b' : Builder) : Prop where
  rest : b' = { b with parameters := b'.parameters }
  keys : b.parameters.keys = b'.parameters.keys

/-! ## One call -/

/-- Clauses are set without a look at the table. -/
theorem arrange_parameters (b : Builder) (table : Table Token Value) (call : Call) :
    { b with parameters := table }.arrange call =
      { b.arrange call with parameters := table } := by
  cases call with
  | registerSource name aliasName =>
    rw [arrange, arrange, registerSource, registerSource]
    split <;> rfl
  | _ => rfl

/-- Two calls that set the same clauses, append the same conditions and request tokens of the same
origins keep the shape. -/
theorem SameShape.apply {b b' : Builder} (h : SameShape b b') {c c' : Call}
    (kept : c.isClear = false) (kept' : c'.isClear = false)
    (clauses : ∀ b : Builder, b.arrange c = b.arrange c')
    (conditions : ∀ slot, c.newConditions slot = c'.newConditions slot)
    (origins : c.requests.map Prod.fst = c'.requests.map Prod.fst) :
    SameShape (b.apply c) (b'.apply c') := by
  have lengths : c.requests.length = c'.requests.length := by
    simpa using congrArg List.length origins
  obtain ⟨rest, keys⟩ := h
  rw [apply_eq b kept, apply_eq b' kept']
  constructor
  · rw [rest, arrange_parameters, clauses, conditions]
    simp only [grant, lengths]
  · have counter : b'.counter = b.counter := by rw [rest]
    simp only [grant, counter]
    rw [Table.keys_insertAll, Table.keys_insertAll, tokens_issued, tokens_issued, keys, origins]

theorem SameShape.render_eq {b b' : Builder} (h : SameShape b b') : b.render = b'.render := by
  rw [h.rest]
  rfl

theorem Twins.sameShape {b b' : Builder} (twins : Twins b b') : SameShape b b' := by
  induction twins with
  | empty => exact ⟨rfl, rfl⟩
  | @call b b' c c' _ same ih =>
    cases same with
    | compare field comparison v w => exact ih.apply rfl rfl (fun _ => rfl) (fun _ => rfl) rfl
    | inValues field negated lengths =>
      -- The condition holds a token for each value, so the text depends on their number.
      refine ih.apply rfl rfl (fun _ => rfl) (fun slot => ?_) ?_
      · simp only [Call.newConditions, lengths]
      · simp [Call.requests, Function.comp_def, lengths]
    | inList field vs ws => exact ih.apply rfl rfl (fun _ => rfl) (fun _ => rfl) rfl
    | mapEquals field k v k' v' => exact ih.apply rfl rfl (fun _ => rfl) (fun _ => rfl) rfl
    | plain _ _ =>
      rcases c.eq_clear_or with rfl | kept
      · exact ⟨rfl, rfl⟩
      · exact ih.apply kept kept (fun _ => rfl) (fun _ => rfl) rfl
  | merge field _ _ ih inner =>
    -- The nested pair renders the same text and has the same keys to rename it by.
    refine ih.apply rfl rfl (fun _ => rfl) (fun slot => ?_) ?_
    · simp only [Call.newConditions, inner.render_eq, inner.keys]
    · have origins := congrArg (List.map some) inner.keys
      simpa [Call.requests, Table.keys, Function.comp_def] using origins

theorem Twins.numbered {b b' : Builder} (twins : Twins b b') : b.Numbered ∧ b'.Numbered := by
  induction twins with
  | empty => exact ⟨numbered_empty, numbered_empty⟩
  | call _ _ ih => exact ⟨ih.1.apply _, ih.2.apply _⟩
  | merge field _ _ ih _ => exact ⟨ih.1.apply _, ih.2.apply _⟩

/-! ## What an observer sees -/

/-- The list length of the value a statement finds, from the keys and the list lengths in table
order. -/
theorem listLength_value? {b : Builder} (h : b.Numbered) (token : Token) :
    (b.statement.value? token).map Value.listLength? =
      Table.lookup token.name ((b.parameters.keys.map Token.name).zip
        (b.parameters.values.map Value.listLength?)) := by
  rw [Statement.value?, Table.find?, Table.map_lookup]
  congr 1
  show b.namedParameters.entries.map _ = _
  rw [h.entries_namedParameters, Table.keys, Table.values, List.map_map, List.map_map,
    List.map_map, List.zip_map']
  rfl

/-- Bound values do not reach the text. Twins render the same text and fragments, with the same
tokens under the same names. If the values in corresponding places of the tables are lists of one
length or both no lists, the positional forms have the same text and the same number of values, or
fail with the same error, for every limit. -/
theorem values_do_not_interfere {b b' : Builder} (twins : Twins b b') :
    b.text = b'.text ∧ b.statement.fragments = b'.statement.fragments ∧
      b.tokenCount = b'.tokenCount ∧ b.namedParameters.keys = b'.namedParameters.keys ∧
      (b.parameters.values.map Value.listLength? = b'.parameters.values.map Value.listLength? →
        ∀ max, (b.statement.toPositional max).map Positional.outline =
          (b'.statement.toPositional max).map Positional.outline) := by
  obtain ⟨numbered, numbered'⟩ := twins.numbered
  have shape := twins.sameShape
  have render := shape.render_eq
  refine ⟨congrArg renderText render, render, ?_, ?_, fun lengths max => ?_⟩
  · rw [shape.rest]
    rfl
  · rw [numbered.keys_namedParameters, numbered'.keys_namedParameters, shape.keys]
  · refine outline_toPositional render (fun token => ?_) max
    rw [listLength_value? numbered, listLength_value? numbered', shape.keys, lengths]

/-- A search whose values come from outside, one of them in a nested statement. -/
def search (name : Value) (ids : List Value) (total : Value) : Builder :=
  run {} [.compare "u.name" .equal name, .connective .and, .inList "u.id" ids, .connective .and,
    .subQuery (some "u.id") (run {} [.compare "o.total" .greater total])]

theorem twins_search (name total name' total' : Value) (ids ids' : List Value) :
    Twins (search name ids total) (search name' ids' total') := by
  have nested : Twins (run {} [.compare "o.total" .greater total])
      (run {} [.compare "o.total" .greater total']) := Twins.empty.call (.compare ..)
  have named := Twins.empty.call (.compare "u.name" .equal name name')
  have listed := (named.call (.plain (.connective .and) (by simp))).call (.inList "u.id" ids ids')
  exact .merge _ (listed.call (.plain (.connective .and) (by simp))) nested

/-- Values that look like statement text change neither form of the statement. -/
theorem search_ignores_payload :
    let b := search (.text "Alice") [.integer 1, .integer 2] (.integer 100)
    let b' := search (.text "' OR 1=1 --") [.text ":_0", .null] (.text "$1")
    Twins b b' ∧
      b.parameters.values.map Value.listLength? = b'.parameters.values.map Value.listLength? ∧
      b.text = b'.text ∧
      (b.statement.toPositional 4).map Positional.outline =
        (b'.statement.toPositional 4).map Positional.outline := by
  intro b b'
  have twins : Twins b b' := twins_search ..
  have seen := values_do_not_interfere twins
  exact ⟨twins, rfl, seen.1, seen.2.2.2.2 rfl 4⟩

end Builder

end BoundQuery
