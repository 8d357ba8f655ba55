import BoundQuery.Proofs.Calls

/-!
# Parts of a builder and the order of calls

Every call but `clear` is about one part of the builder: it reads and writes that part and leaves
the others alone. So calls about different parts may change places, and a run is determined by what
it says about each part.

Results:
1. `agree_apply_self`: a call leaves every part it is not about as it was.
2. `Agree.apply`: what a call makes of a part depends on that part alone.
3. `agree_run_filter`: a run makes of a part what its calls about that part make of it.
4. `run_eq_of_filter_eq`: the order of calls counts within each part only, and behind the last
   `clear` only.
-/

namespace BoundQuery

/-- What calls can be about. Conditions, bound values and token numbers are one part. -/
inductive Part where
  | sources
  | joins
  | conditions
  | select
  | distinct
  | ordering
  | groupBy
  | having
deriving DecidableEq, Repr

/-- The part a call is about; `clear` is about no single one. -/
def Call.part? : Call → Option Part
  | registerSource _ _ => some .sources
  | join _ => some .joins
  | compare _ _ _ => some .conditions
  | compareField _ _ _ => some .conditions
  | inValues _ _ _ => some .conditions
  | inList _ _ => some .conditions
  | mapEquals _ _ _ => some .conditions
  | nullTest _ _ => some .conditions
  | connective _ => some .conditions
  | parenthesis _ => some .conditions
  | subQuery _ _ => some .conditions
  | select _ _ => some .select
  | selectMap _ => some .select
  | distinct => some .distinct
  | orderBy _ _ => some .ordering
  | groupBy _ => some .groupBy
  | having _ => some .having
  | clear => none

namespace Builder

/-- Two builders are equal in a part. -/
def Agree : Part → Builder → Builder → Prop
  | .sources, b, b' => b.sources = b'.sources
  | .joins, b, b' => b.joins = b'.joins
  | .conditions, b, b' =>
    b.conditions = b'.conditions ∧ b.parameters = b'.parameters ∧ b.counter = b'.counter
  | .select, b, b' => b.select = b'.select
  | .distinct, b, b' => b.distinct = b'.distinct
  | .ordering, b, b' => b.ordering = b'.ordering
  | .groupBy, b, b' => b.grouping.groupBy = b'.grouping.groupBy
  | .having, b, b' => b.grouping.having = b'.grouping.having

theorem agree_refl (part : Part) (b : Builder) : Agree part b b := by
  cases part with
  | conditions => exact ⟨rfl, rfl, rfl⟩
  | _ => exact rfl

theorem Agree.symm {part : Part} {b b' : Builder} (h : Agree part b b') : Agree part b' b := by
  cases part with
  | conditions => exact ⟨h.1.symm, h.2.1.symm, h.2.2.symm⟩
  | _ => exact Eq.symm h

theorem Agree.trans {part : Part} {a b c : Builder} (h : Agree part a b) (k : Agree part b c) :
    Agree part a c := by
  cases part with
  | conditions => exact ⟨h.1.trans k.1, h.2.1.trans k.2.1, h.2.2.trans k.2.2⟩
  | _ => exact Eq.trans h k

/-- Builders that are equal in every part are equal. -/
theorem eq_of_agree {b b' : Builder} (h : ∀ part, Agree part b b') : b = b' := by
  obtain ⟨sources, joins, conditions, select, distinct, ordering, ⟨groupBy, having⟩, parameters,
    counter⟩ := b
  obtain ⟨sources', joins', conditions', select', distinct', ordering', ⟨groupBy', having'⟩,
    parameters', counter'⟩ := b'
  obtain rfl : sources = sources' := h .sources
  obtain rfl : joins = joins' := h .joins
  obtain ⟨rfl, rfl, rfl⟩ : conditions = conditions' ∧ parameters = parameters' ∧
      counter = counter' := h .conditions
  obtain rfl : select = select' := h .select
  obtain rfl : distinct = distinct' := h .distinct
  obtain rfl : ordering = ordering' := h .ordering
  obtain rfl : groupBy = groupBy' := h .groupBy
  obtain rfl : having = having' := h .having
  rfl

/-! ## One call -/

/-- A call leaves every part it is not about as it was. -/
theorem agree_apply_self (b : Builder) {call : Call} {part : Part} (kept : call.isClear = false)
    (other : call.part? ≠ some part) : Agree part (b.apply call) b := by
  rw [apply_eq b kept]
  cases part with
  | conditions =>
    -- Of the calls that are not about conditions none requests a token or adds a condition.
    cases call with
    | clear => cases kept
    | registerSource | join | select | selectMap | distinct | orderBy | groupBy | having =>
      exact ⟨List.append_nil _, rfl, rfl⟩
    | _ => exact absurd rfl other
  | _ =>
    cases call with
    | clear => cases kept
    | registerSource name aliasName =>
      first
        | exact absurd rfl other
        | simp only [Agree, arrange, registerSource]; split <;> rfl
    | _ => first | exact absurd rfl other | rfl

/-- What a call makes of a part depends on that part alone. -/
theorem Agree.apply {part : Part} {b b' : Builder} (h : Agree part b b') {call : Call}
    (kept : call.isClear = false) : Agree part (b.apply call) (b'.apply call) := by
  by_cases about : call.part? = some part
  · rw [apply_eq b kept, apply_eq b' kept]
    cases part with
    | conditions =>
      obtain ⟨conditions, parameters, counter⟩ := h
      simp only [Agree, grant, conditions, parameters, counter, and_self]
    | sources =>
      cases call with
      | registerSource name aliasName =>
        simp only [Agree, arrange, registerSource] at h ⊢
        split
        · exact h
        · exact congrArg (Sources.register · name aliasName) h
      | _ => cases about
    | joins =>
      cases call with
      | join j => exact congrArg (· ++ [j]) h
      | _ => cases about
    | ordering =>
      cases call with
      | orderBy field direction => exact congrArg (SortFields.add · field direction) h
      | _ => cases about
    | select | distinct | groupBy | having =>
      -- These parts are set anew, whatever they were.
      cases call with
      | select | selectMap | distinct | groupBy | having => first | rfl | cases about
      | _ => cases about
  · exact (agree_apply_self b kept about).trans (h.trans (agree_apply_self b' kept about).symm)

/-! ## Runs -/

/-- A run makes of a part what its calls about that part make of it. -/
theorem agree_run_filter {part : Part} {b b' : Builder} (h : Agree part b b') {calls : List Call}
    (kept : ∀ call ∈ calls, call.isClear = false) :
    Agree part (b.run calls) (b'.run (calls.filter fun call => call.part? = some part)) := by
  induction calls generalizing b b' with
  | nil => exact h
  | cons call rest ih =>
    have here : call.isClear = false := kept call List.mem_cons_self
    have later : ∀ call ∈ rest, call.isClear = false := fun call member =>
      kept call (List.mem_cons_of_mem _ member)
    by_cases about : call.part? = some part
    · rw [List.filter_cons_of_pos (by simpa using about), run_cons, run_cons]
      exact ih (h.apply here) later
    · rw [List.filter_cons_of_neg (by simpa using about), run_cons]
      exact ih ((agree_apply_self b here about).trans h) later

theorem run_eq_of_filter_eq_of_kept (b : Builder) {calls calls' : List Call}
    (kept : ∀ call ∈ calls, call.isClear = false) (kept' : ∀ call ∈ calls', call.isClear = false)
    (same : ∀ part, calls.filter (fun call => call.part? = some part) =
      calls'.filter fun call => call.part? = some part) : b.run calls = b.run calls' := by
  refine eq_of_agree fun part => ?_
  have front := agree_run_filter (agree_refl part b) kept
  have back := agree_run_filter (agree_refl part b) kept'
  rw [same part] at front
  exact front.trans back.symm

/-- The order of calls counts within each part only. Two runs from the start whose calls behind the
last `clear` are the same for each part, in the same order, end in one builder: whatever came before
the `clear`, and however the parts were mixed. So text, statement, table and number of tokens are
the same too. -/
theorem run_eq_of_filter_eq {calls calls' : List Call}
    (same : ∀ part, (Call.sinceClear calls).filter (fun call => call.part? = some part) =
      (Call.sinceClear calls').filter fun call => call.part? = some part) :
    let b := run {} calls
    let b' := run {} calls'
    b = b' ∧ b.text = b'.text ∧ b.statement.fragments = b'.statement.fragments ∧
      b.parameters = b'.parameters ∧ b.namedParameters = b'.namedParameters ∧
      b.tokenCount = b'.tokenCount := by
  have equal : run {} calls = run {} calls' := by
    rw [run_sinceClear calls, run_sinceClear calls']
    exact run_eq_of_filter_eq_of_kept {} (fun _ => Call.isClear_of_mem_sinceClear)
      (fun _ => Call.isClear_of_mem_sinceClear) same
  simp only [equal, and_self]

/-- A statement that is reused after `clear` and then put together in another order. -/
theorem run_reordered :
    let nested := run {} [.inValues "o.state" [.text "open", .text "paid"] false]
    let calls : List Call := [.distinct, .compare "u.id" .equal (.integer 1), .clear,
      .having "count(r) > 1", .compare "u.name" .like (.text "A%"), .select .count none,
      .registerSource "User" (some "u"), .connective .and, .select .field (some "u"),
      .subQuery (some "u.id") nested]
    let calls' : List Call := [.compare "u.name" .like (.text "A%"), .connective .and,
      .subQuery (some "u.id") nested, .select .count none, .select .field (some "u"),
      .registerSource "User" (some "u"), .having "count(r) > 1"]
    (∀ part, (Call.sinceClear calls).filter (fun call => call.part? = some part) =
        (Call.sinceClear calls').filter fun call => call.part? = some part) ∧
      run {} calls = run {} calls' := by
  intro nested calls calls'
  have same : ∀ part, (Call.sinceClear calls).filter (fun call => call.part? = some part) =
      (Call.sinceClear calls').filter fun call => call.part? = some part := by
    intro part
    cases part <;> rfl
  exact ⟨same, (run_eq_of_filter_eq same).1⟩

end Builder

end BoundQuery
