import BoundQuery.Executor
import BoundQuery.Proofs.Numbering
import BoundQuery.Proofs.WhereBody

/-!
# From the builder to the driver

What a driver is handed for a builder is what the calls supplied: every value once, in call order,
lists item by item. So only the number of values can stop a statement, and an executor whose pool
is closed fails with that or with the pool's own error.

Results:
1. `reachable_iff_supplied` / `Supplied.values_eq`: the values supplied to a builder are those of
   its table.
2. `Faithful.prepare_eq`: preparing a statement fails by the number of its values or not at all.
3. `Executor.send_of_error` / `send_closed`: a closed pool adds no outcome but its own error.
4. `prepare_supplied`: all of it for every builder that calls can lead to.
-/

namespace BoundQuery

namespace Builder

/-! ## Supplied values -/

/-- Calls lead to the builder, and since the last `clear` they supplied these values, in call
order; those supplied to a nested builder stand where it was merged. -/
inductive Supplied : Builder → List Value → Prop
  | start : Supplied {} []
  | call {b : Builder} {vs : List Value} (call : Call) : Supplied b vs → call.isClear = false →
      (∀ field nested, call ≠ .subQuery field nested) → Supplied (b.apply call) (vs ++ call.supplied)
  | merge {b nested : Builder} {vs ws : List Value} (field : Option String) : Supplied b vs →
      Supplied nested ws → Supplied (b.apply (.subQuery field nested)) (vs ++ ws)
  | clear {b : Builder} {vs : List Value} : Supplied b vs → Supplied (b.apply .clear) []

theorem Numbered.values_apply {b : Builder} (h : b.Numbered) {call : Call}
    (kept : call.isClear = false) :
    (b.apply call).parameters.values = b.parameters.values ++ call.supplied := by
  rw [Table.values, h.entries_apply kept, List.map_append, values_issued, call.values_requests]
  rfl

theorem Supplied.reachable {b : Builder} {vs : List Value} (h : Supplied b vs) : Reachable b := by
  induction h with
  | start => exact .empty
  | call call _ _ plain ih =>
    exact ih.call call fun field nested merged => absurd merged (plain field nested)
  | merge field _ _ ih inner =>
    refine ih.call _ fun _ _ merged => ?_
    cases merged
    exact inner
  | clear _ ih => exact ih.call .clear fun _ _ merged => nomatch merged

/-- The table lists the supplied values in the order in which they were supplied. -/
theorem Supplied.values_eq {b : Builder} {vs : List Value} (h : Supplied b vs) :
    b.parameters.values = vs := by
  induction h with
  | start => rfl
  | call call h kept _ ih => rw [h.reachable.numbered.values_apply kept, ih]
  | merge field h _ ih inner => rw [h.reachable.numbered.values_apply rfl, ih, Call.supplied, inner]
  | clear _ _ => rfl

theorem Reachable.exists_supplied {b : Builder} (reached : Reachable b) : ∃ vs, Supplied b vs := by
  induction reached with
  | empty => exact ⟨[], .start⟩
  | call call _ _ ih inner =>
    obtain ⟨vs, supplied⟩ := ih
    rcases call.eq_clear_or with rfl | kept
    · exact ⟨[], .clear supplied⟩
    · cases call with
      | subQuery field nested =>
        obtain ⟨ws, nestedSupplied⟩ := inner field nested rfl
        exact ⟨vs ++ ws, .merge field supplied nestedSupplied⟩
      | _ => exact ⟨_, .call _ supplied kept (by simp)⟩

theorem reachable_iff_supplied {b : Builder} : Reachable b ↔ ∃ vs, Supplied b vs :=
  ⟨Reachable.exists_supplied, fun ⟨_, supplied⟩ => supplied.reachable⟩

/-! ## Preparing and sending -/

theorem outcome_prepare (settings : QuerySettings) (s : Statement) :
    (s.prepare settings).outcome = s.toPositional settings.maxBoundParameters := by
  rw [Statement.prepare]
  cases s.toPositional settings.maxBoundParameters <;> rfl

/-- Preparing fails by the number of values or not at all, and hands over the values of the table in
table order, lists expanded. -/
theorem Faithful.prepare_eq {b : Builder} (h : b.Faithful) (settings : QuerySettings) :
    (b.statement.prepare settings).outcome =
      if settings.maxBoundParameters < Value.totalWidth b.parameters.values then
        .error (.tooManyParameters (Value.totalWidth b.parameters.values)
          settings.maxBoundParameters)
      else .ok ⟨String.ofList (Atom.text 1 b.atoms), b.parameters.values.flatMap Value.expansion⟩ := by
  rw [outcome_prepare, h.toPositional_eq, layOut, h.values_atoms, Value.length_expansions]

end Builder

namespace Executor

variable {Row α : Type} {executor : Executor Row} {call : Positional → Except PoolError α}
  {s : Statement}

/-- A statement that is refused when prepared does not get to the pool. -/
theorem send_of_error {e : StatementError} (refused : (s.prepare executor.settings).outcome = .error e) :
    executor.send call s = .error (.statement e) := by
  rw [send, refused]

theorem send_closed {p : Positional} (prepared : (s.prepare executor.settings).outcome = .ok p)
    (closed : ∀ p, call p = .error .closed) :
    executor.send call s = .error (.connection .closed) := by
  rw [send, prepared]
  exact congrArg (Except.mapError ExecutorError.connection) (closed p)

end Executor

namespace Builder

/-- From the calls to the driver. A builder was supplied with certain values since its last
`clear`, and let `n` be their number, lists counted by their items. Preparing its statement never
misses a value; it is refused, with the count `n`, exactly if `n` exceeds the limit; else it hands
over the supplied values in call order, lists item by item. So each way to run the statement on a
closed pool fails with that refusal, or with the pool's error if there is none. -/
theorem prepare_supplied {b : Builder} (reached : Reachable b) :
    ∃ vs, (∀ ws, Supplied b ws ↔ ws = vs) ∧ ∀ (settings : QuerySettings) (Row : Type),
      let n := Value.totalWidth vs
      let max := settings.maxBoundParameters
      let outcome := (b.statement.prepare settings).outcome
      let executor : Executor Row := ⟨Pool.closed Row, settings⟩
      let refusal : ExecutorError :=
        if max < n then .statement (.tooManyParameters n max) else .connection .closed
      (∀ name, outcome ≠ .error (.missingParameter name)) ∧
        (∀ e, outcome = .error e ↔ max < n ∧ e = .tooManyParameters n max) ∧
        (n ≤ max → ∃ sql, outcome = .ok ⟨sql, vs.flatMap Value.expansion⟩) ∧
        executor.fetchAll b.statement = .error refusal ∧
        executor.fetchOptional b.statement = .error refusal ∧
        executor.execute b.statement = .error refusal ∧
        executor.fetchAllFrom b = .error refusal ∧
        executor.executeFrom b = .error refusal := by
  obtain ⟨vs, supplied⟩ := reached.exists_supplied
  refine ⟨vs, fun ws => ⟨fun other => ?_, fun equal => equal ▸ supplied⟩, ?_⟩
  · rw [← other.values_eq, supplied.values_eq]
  intro settings Row n max outcome executor refusal
  have prepared : outcome = if max < n then .error (.tooManyParameters n max)
      else .ok ⟨String.ofList (Atom.text 1 b.atoms), vs.flatMap Value.expansion⟩ := by
    have equation := reached.faithful.prepare_eq settings
    rwa [supplied.values_eq] at equation
  have sent {α : Type} {call : Positional → Except PoolError α}
      (closed : ∀ p, call p = .error .closed) :
      executor.send call b.statement = .error refusal := by
    by_cases many : max < n
    · rw [if_pos many] at prepared
      exact (Executor.send_of_error prepared).trans (congrArg Except.error (if_pos many).symm)
    · rw [if_neg many] at prepared
      exact (Executor.send_closed prepared closed).trans (congrArg Except.error (if_neg many).symm)
  refine ⟨fun name missing => ?_, fun e => ?_, fun fits => ?_, sent fun _ => rfl, sent fun _ => rfl,
    sent fun _ => rfl, sent fun _ => rfl, sent fun _ => rfl⟩
  · rw [prepared] at missing
    split at missing <;> cases missing
  · by_cases many : max < n
    · simp [prepared, many, eq_comm]
    · simp [prepared, many]
  · exact ⟨_, by rw [prepared, if_neg (Nat.not_lt.mpr fits)]⟩

/-- A statement that merges another one between a comparison and a collection. -/
def regionalCustomers : Builder :=
  run {} [.compare "c.tier" .equal (.text "gold"), .connective .and,
    .subQuery (some "c.id") openOrders, .connective .or,
    .inList "c.region" [.integer 1, .integer 2, .integer 3]]

/-- Seven values: one more than the first limit, as many as the second. -/
theorem prepare_regionalCustomers :
    Reachable regionalCustomers ∧
      (regionalCustomers.statement.prepare { maxBoundParameters := 6 }).outcome =
        .error (.tooManyParameters 7 6) ∧
      (∃ sql, (regionalCustomers.statement.prepare { maxBoundParameters := 7 }).outcome =
        .ok ⟨sql, [.text "gold", .integer 100, .text "open", .text "paid", .integer 1, .integer 2,
          .integer 3]⟩) ∧
      (⟨Pool.closed Unit, { maxBoundParameters := 7 }⟩ : Executor Unit).fetchAllFrom
        regionalCustomers = .error (.connection .closed) := by
  have reached : Reachable regionalCustomers := Reachable.empty.run (by simp [reachable_openOrders])
  obtain ⟨vs, unique, prepared⟩ := prepare_supplied reached
  obtain rfl : [.text "gold", .integer 100, .text "open", .text "paid",
      .list [.integer 1, .integer 2, .integer 3]] = vs := ((unique vs).mpr rfl).values_eq
  obtain ⟨_, refused, _⟩ := prepared { maxBoundParameters := 6 } Unit
  obtain ⟨_, _, accepted, _, _, _, sent, _⟩ := prepared { maxBoundParameters := 7 } Unit
  exact ⟨reached, (refused _).mpr ⟨by decide, rfl⟩, accepted (by decide), sent⟩

end Builder

end BoundQuery
