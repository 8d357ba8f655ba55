import BoundQuery.Builder.Call
import BoundQuery.Proofs.Table
import Mathlib.Data.List.DropRight

/-!
# What a call adds

A call may ask for tokens, append conditions and set clauses. Each part is given here on its own:
* `Call.requests`: the values to bind, each with the token it had if it comes from a merge;
* `Call.newConditions`: the conditions to append, once the first free slot is known;
* `Builder.arrange`: the clauses besides WHERE.

Results:
1. `bindAll_eq` / `adoptAll_eq`: every allocation serves requests with consecutive slots.
2. `apply_eq`: a call other than `clear` does these three things and nothing else.
3. `run_grants`: a run of such calls grants all their requests in call order.
4. `run_sinceClear`: a run from the start is determined by the calls behind its last `clear`.
5. `reachable_iff_run`: the reachable builders are the ends of runs that merge reachable ones.
-/

namespace BoundQuery

/-- The token given out with a slot: one of the builder's own, or a merged one. -/
def Token.issue (slot : Nat) : Option Token → Token
  | none => .own slot
  | some origin => .merged origin slot

@[simp] theorem Token.slot_issue (slot : Nat) (origin : Option Token) :
    (Token.issue slot origin).slot = slot := by
  cases origin <;> rfl

/-- Requests under tokens with consecutive slots. -/
def issued (start : Nat) : List (Option Token × Value) → List (Token × Value)
  | [] => []
  | (origin, value) :: rest => (Token.issue start origin, value) :: issued (start + 1) rest

/-- The new names of nested tokens, for merged tokens with consecutive slots. -/
def mergedNames (start : Nat) : List Token → List (Token × Token)
  | [] => []
  | token :: rest => (token, .merged token start) :: mergedNames (start + 1) rest

namespace Call

def isClear : Call → Bool
  | clear => true
  | _ => false

/-- What a call binds, in order: each value, with its token in the nested builder if it has one. -/
def requests : Call → List (Option Token × Value)
  | compare _ _ value => [(none, value)]
  | inValues _ values _ => values.map fun value => (none, value)
  | inList _ values => [(none, .list values)]
  | mapEquals _ key value => [(none, key), (none, value)]
  | subQuery _ nested => nested.parameters.entries.map fun entry => (some entry.1, entry.2)
  | _ => []

/-- The conditions a call appends if `slot` is the first free one. -/
def newConditions (slot : Nat) : Call → List Condition
  | compare field comparison _ => [.compare field comparison (.param (.own slot))]
  | compareField field comparison other => [.compare field comparison (.field other)]
  | inValues field values negated =>
    [.oneOf field ((List.range' slot values.length).map .own) negated]
  | inList field _ => [.inList field (.own slot)]
  | mapEquals field _ _ => [.mapEntry field (.own slot) (.own (slot + 1))]
  | nullTest field negated => [.nullTest field negated]
  | connective c => [.connective c]
  | parenthesis mark => [.parenthesis mark]
  | subQuery field nested =>
    let renames := Table.ofList (mergedNames slot nested.parameters.keys)
    [.subQuery field (nested.render.map (Fragment.rename renames))]
  | _ => []

theorem eq_clear_or (call : Call) : call = .clear ∨ call.isClear = false := by
  cases call with
  | clear => exact .inl rfl
  | _ => exact .inr rfl

theorem isClear_of_notMem {calls : List Call} (kept : .clear ∉ calls) :
    ∀ call ∈ calls, call.isClear = false := by
  intro call member
  rcases call.eq_clear_or with rfl | unclear
  · exact absurd member kept
  · exact unclear

/-- The calls behind the last `clear`. -/
def sinceClear (calls : List Call) : List Call := calls.rtakeWhile fun call => !call.isClear

theorem isClear_of_mem_sinceClear {calls : List Call} {call : Call}
    (member : call ∈ sinceClear calls) : call.isClear = false := by
  simpa using List.mem_rtakeWhile_imp member

end Call

theorem issued_append (start : Nat) (front back : List (Option Token × Value)) :
    issued start (front ++ back) = issued start front ++ issued (start + front.length) back := by
  induction front generalizing start with
  | nil => rfl
  | cons request rest ih =>
    obtain ⟨origin, value⟩ := request
    rw [List.cons_append, issued, issued, ih, List.length_cons, Nat.add_right_comm, Nat.add_assoc]
    rfl

namespace Builder

/-- The part of a call that is about the clauses besides WHERE. -/
def arrange (b : Builder) : Call → Builder
  | .registerSource name aliasName => b.registerSource name aliasName
  | .join join => b.addJoin join
  | .select mode operand => { b with select := some ⟨mode, operand⟩ }
  | .selectMap fields => { b with select := some ⟨.newMap, some (mapOperand fields)⟩ }
  | .distinct => { b with distinct := true }
  | .orderBy field direction => { b with ordering := b.ordering.add field direction }
  | .groupBy text => { b with grouping := { b.grouping with groupBy := some text } }
  | .having text => { b with grouping := { b.grouping with having := some text } }
  | _ => b

/-- Serves requests with the next slots. -/
def grant (b : Builder) (requests : List (Option Token × Value)) : Builder :=
  { b with
    parameters := b.parameters.insertAll (issued b.counter.next requests)
    counter := ⟨b.counter.next + requests.length⟩ }

/-! ## Allocation -/

@[simp] theorem grant_nil (b : Builder) : b.grant [] = b := rfl

theorem grant_append (b : Builder) (front back : List (Option Token × Value)) :
    b.grant (front ++ back) = (b.grant front).grant back := by
  simp only [grant, issued_append, Table.insertAll_append, List.length_append, Nat.add_assoc]

theorem bind_eq (b : Builder) (value : Value) :
    b.bind value = (.own b.counter.next, b.grant [(none, value)]) := rfl

theorem adopt_eq (b : Builder) (token : Token) (value : Value) :
    b.adopt token value = (.merged token b.counter.next, b.grant [(some token, value)]) := rfl

/-- Binding values takes as many slots, in the order of the values. -/
theorem bindAll_eq (b : Builder) (values : List Value) :
    b.bindAll values =
      ((List.range' b.counter.next values.length).map .own,
        b.grant (values.map fun value => (none, value))) := by
  induction values generalizing b with
  | nil => rfl
  | cons value rest ih =>
    simp only [bindAll, bind_eq, ih, List.map_cons]
    rw [← grant_append]
    rfl

/-- A merge takes a slot for each nested entry, in table order, and notes the new name. -/
theorem adoptAll_eq (b : Builder) (renames : Table Token Token) (entries : List (Token × Value)) :
    b.adoptAll renames entries =
      (renames.insertAll (mergedNames b.counter.next (entries.map Prod.fst)),
        b.grant (entries.map fun entry => (some entry.1, entry.2))) := by
  induction entries generalizing b renames with
  | nil => rfl
  | cons entry rest ih =>
    obtain ⟨token, value⟩ := entry
    simp only [adoptAll, adopt_eq, ih, List.map_cons]
    rw [← grant_append]
    rfl

theorem merge_eq (b nested : Builder) :
    b.merge nested =
      (nested.render.map
          (Fragment.rename (.ofList (mergedNames b.counter.next nested.parameters.keys))),
        b.grant (nested.parameters.entries.map fun entry => (some entry.1, entry.2))) := by
  rw [merge, adoptAll_eq]
  rfl

/-! ## Calls -/

/-- A call other than `clear` grants its requests, appends its conditions and sets its clauses. -/
theorem apply_eq (b : Builder) {call : Call} (kept : call.isClear = false) :
    b.apply call =
      { b.arrange call with
        conditions := b.conditions ++ call.newConditions b.counter.next
        parameters := (b.grant call.requests).parameters
        counter := (b.grant call.requests).counter } := by
  cases call with
  | registerSource name aliasName =>
    -- A blank name changes nothing, so the builder is decided by cases on it.
    rw [apply, arrange, registerSource]
    split <;> simp [Call.newConditions, Call.requests]
  | clear => cases kept
  | inValues field values negated =>
    rw [apply, inValues, bindAll_eq]
    rfl
  | subQuery field nested =>
    rw [apply, subQuery, merge_eq]
    rfl
  | _ => simp [apply, arrange, addJoin, compare, compareField, inList, mapEquals, addCondition,
      bind_eq, grant, issued, Call.newConditions, Call.requests, Table.insertAll]

/-! ## Runs -/

theorem run_cons (b : Builder) (call : Call) (rest : List Call) :
    b.run (call :: rest) = (b.apply call).run rest := rfl

theorem run_append (b : Builder) (front back : List Call) :
    b.run (front ++ back) = (b.run front).run back := List.foldl_append

/-- A run without `clear` grants the requests of its calls one after another. -/
theorem run_grants (b : Builder) {calls : List Call} (kept : ∀ call ∈ calls, call.isClear = false) :
    (b.run calls).parameters = (b.grant (calls.flatMap Call.requests)).parameters ∧
      (b.run calls).counter = (b.grant (calls.flatMap Call.requests)).counter := by
  induction calls generalizing b with
  | nil => exact ⟨rfl, rfl⟩
  | cons call rest ih =>
    have step := apply_eq b (kept call List.mem_cons_self)
    obtain ⟨table, counter⟩ := ih (b.apply call) fun call member =>
      kept call (List.mem_cons_of_mem _ member)
    rw [run_cons, table, counter, List.flatMap_cons, grant_append]
    simp only [grant, step, and_self]

/-- Without `clear` a condition stays where it is. -/
theorem conditions_prefix_run (b : Builder) {calls : List Call}
    (kept : ∀ call ∈ calls, call.isClear = false) : b.conditions <+: (b.run calls).conditions := by
  induction calls generalizing b with
  | nil => exact List.prefix_rfl
  | cons call rest ih =>
    have step : (b.apply call).conditions = b.conditions ++ call.newConditions b.counter.next := by
      rw [apply_eq b (kept call List.mem_cons_self)]
    have later := ih (b.apply call) fun call member => kept call (List.mem_cons_of_mem _ member)
    rw [step] at later
    exact (List.prefix_append _ _).trans later

/-- What came before the last `clear` leaves no trace. -/
theorem run_sinceClear (calls : List Call) : run {} calls = run {} (Call.sinceClear calls) := by
  induction calls using List.reverseRecOn with
  | nil => rfl
  | append_singleton front call ih =>
    -- From the end: the first `clear` met there cuts off all before it.
    rw [Call.sinceClear]
    rcases call.eq_clear_or with rfl | kept
    · rw [List.rtakeWhile_concat_neg _ _ _ (by simp [Call.isClear]), run_append]
      rfl
    · rw [List.rtakeWhile_concat_pos _ _ _ (by simp [kept]), run_append, run_append, ih]
      rfl

theorem Reachable.run {b : Builder} (reached : Reachable b) {calls : List Call}
    (nested : ∀ field n, .subQuery field n ∈ calls → Reachable n) : Reachable (b.run calls) := by
  induction calls generalizing b with
  | nil => exact reached
  | cons call rest ih =>
    refine ih (reached.call call fun field n merged => ?_) fun field n member => ?_
    · exact nested field n (merged ▸ List.mem_cons_self)
    · exact nested field n (List.mem_cons_of_mem _ member)

theorem reachable_iff_run {b : Builder} :
    Reachable b ↔
      ∃ calls, b = Builder.run {} calls ∧ ∀ field n, .subQuery field n ∈ calls → Reachable n := by
  constructor
  · intro reached
    induction reached with
    | empty => exact ⟨[], rfl, by simp⟩
    | call call _ inner ih _ =>
      obtain ⟨calls, rfl, nested⟩ := ih
      refine ⟨calls ++ [call], by rw [run_append]; rfl, fun field n member => ?_⟩
      rcases List.mem_append.mp member with early | last
      · exact nested field n early
      · exact inner field n (List.mem_singleton.mp last).symm
  · rintro ⟨calls, rfl, nested⟩
    exact Reachable.empty.run nested

end Builder

end BoundQuery
