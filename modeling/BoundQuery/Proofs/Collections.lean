import BoundQuery.Proofs.Parts
import BoundQuery.Proofs.WhereBody

/-!
# Two ways to bind a collection

The items of a collection may be bound one by one or all under one token. The named text, the
tokens and their number are different then, and so is every name given out later, also by merges.
A driver is handed the same statement all the same, since its atoms are the same.

Results:
1. `Alike.atoms_eq`: builders that differ in tokens only stand for the same atoms.
2. `Alike.apply` / `Alike.subQuery`: they stay alike under the same calls and under merges of alike
   builders.
3. `alike_collection`: both ways to bind a collection make builders alike.
4. `positional_collection`: so their positional forms are equal, whatever calls and merges follow.
-/

namespace BoundQuery

open Atom (ofText ofValue)

/-! ## Buffers that stand for the same -/

namespace Buffer

theorem appendText_ne_nil (s : String) (fragments : List Fragment) :
    appendText s fragments ≠ [] := by
  fun_cases appendText s fragments <;> simp

theorem pushText_eq_nil_iff (buffer : Buffer) (s : String) :
    (buffer.pushText s).fragments = [] ↔ buffer.fragments = [] ∧ s = "" := by
  rw [pushText]
  split
  · next empty => simp [empty]
  · next filled => simp [filled, appendText_ne_nil]

/-- Two buffers stand for the same atoms, and neither is empty without the other. -/
structure Same (reading reading' : Token → List Atom) (x y : Buffer) : Prop where
  atoms : atomsOf reading x.fragments = atomsOf reading' y.fragments
  empty : x.fragments = [] ↔ y.fragments = []

namespace Same

variable {reading reading' : Token → List Atom} {x y : Buffer}

theorem pushText (h : Same reading reading' x y) (s : String) :
    Same reading reading' (x.pushText s) (y.pushText s) :=
  ⟨by rw [atomsOf_pushText, atomsOf_pushText, h.atoms],
    by rw [pushText_eq_nil_iff, pushText_eq_nil_iff, h.empty]⟩

theorem pushClause (h : Same reading reading' x y) (clause : String) :
    Same reading reading' (x.pushClause clause) (y.pushClause clause) := by
  rw [Buffer.pushClause, Buffer.pushClause]
  by_cases none : x.fragments = []
  · rw [if_pos (List.isEmpty_iff.mpr none), if_pos (List.isEmpty_iff.mpr (h.empty.mp none))]
    exact h.pushText clause
  · have some : ¬y.fragments = [] := fun none' => none (h.empty.mpr none')
    rw [if_neg (by simpa using none), if_neg (by simpa using some)]
    exact (h.pushText " ").pushText clause

theorem pushOptional (h : Same reading reading' x y) (clause : String) :
    Same reading reading' (x.pushOptional clause) (y.pushOptional clause) := by
  rw [Buffer.pushOptional, Buffer.pushOptional]
  split
  · exact h
  · exact h.pushClause clause

end Same

/-- What is pushed later stands behind what is there. -/
theorem exists_pushOptional (buffer : Buffer) (reading : Token → List Atom) (clause : String) :
    ∃ tail, atomsOf reading (buffer.pushOptional clause).fragments =
      atomsOf reading buffer.fragments ++ tail := by
  rw [pushOptional, pushClause]
  split
  · exact ⟨[], (List.append_nil _).symm⟩
  · split
    · exact ⟨_, atomsOf_pushText ..⟩
    · exact ⟨_, by rw [atomsOf_pushText, atomsOf_pushText, List.append_assoc]⟩

end Buffer

namespace Builder

/-! ## The statement around the body -/

/-- What stands before WHERE. -/
def lead (b : Builder) : Buffer :=
  (b.selectClause.pushOptional b.sources.clause).pushOptional (Join.clause b.joins)

/-- The clauses before WHERE come from the parts they are about. -/
theorem lead_congr {b b' : Builder} (clauses : ∀ part, part ≠ .conditions → Agree part b b') :
    b.lead = b'.lead := by
  have select : b.select = b'.select := clauses .select (by decide)
  have distinct : b.distinct = b'.distinct := clauses .distinct (by decide)
  have sources : b.sources = b'.sources := clauses .sources (by decide)
  have joins : b.joins = b'.joins := clauses .joins (by decide)
  rw [lead, lead, selectClause, selectClause, select, distinct, sources, joins]

/-- Text alone stands before WHERE, so any two readings agree on it. -/
theorem same_lead (reading reading' : Token → List Atom) (b : Builder) :
    Buffer.Same reading reading' b.lead b.lead := by
  have start : Buffer.Same reading reading' {} {} := ⟨rfl, Iff.rfl⟩
  have select : Buffer.Same reading reading' b.selectClause b.selectClause := by
    rw [selectClause]
    split
    · exact start.pushClause _
    · exact start
  exact (select.pushOptional _).pushOptional _

/-- With conditions the clause has its keyword and then their atoms. -/
theorem atomsOf_whereClause (reading : Token → List Atom) (buffer : Buffer)
    {conditions : List Condition} (filled : conditions ≠ []) :
    atomsOf reading (whereClause buffer conditions).fragments =
      atomsOf reading (buffer.pushClause "WHERE ").fragments ++
        conditions.flatMap (Condition.atoms reading) := by
  rw [whereClause, if_neg (by simpa using filled), Condition.atomsOf_writeAll]

/-- Builders with the same clauses whose bodies stand for the same atoms in their own tables. -/
structure Alike (b b' : Builder) : Prop where
  faithful : b.Faithful
  faithful' : b'.Faithful
  clauses : ∀ part, part ≠ .conditions → Agree part b b'
  empty : b.conditions = [] ↔ b'.conditions = []
  body : b.body = b'.body

theorem alike_refl {b : Builder} (h : b.Faithful) : Alike b b :=
  ⟨h, h, fun part _ => agree_refl part b, Iff.rfl, rfl⟩

namespace Alike

variable {b b' : Builder}

theorem same_whereClause (h : Alike b b') :
    Buffer.Same b.reading b'.reading (whereClause b.lead b.conditions)
      (whereClause b'.lead b'.conditions) := by
  have front := same_lead b.reading b'.reading b
  rw [← lead_congr h.clauses]
  by_cases none : b.conditions = []
  · have none' : b'.conditions = [] := h.empty.mp none
    rw [none, none']
    exact front
  · have some : b'.conditions ≠ [] := fun none' => none (h.empty.mpr none')
    have atoms := atomsOf_whereClause b.reading b.lead none
    have atoms' := atomsOf_whereClause b'.reading b.lead some
    have body : b.conditions.flatMap (Condition.atoms b.reading) =
        b'.conditions.flatMap (Condition.atoms b'.reading) := h.body
    have keyword := (front.pushClause "WHERE ").atoms
    refine ⟨by rw [atoms, atoms', body, keyword], ?_⟩
    -- Neither is empty, as the keyword alone stands for some atoms.
    have filled (reading : Token → List Atom) :
        atomsOf reading (b.lead.pushClause "WHERE ").fragments ≠ [] := by
      rw [Buffer.pushClause, Buffer.atomsOf_pushText]
      exact List.append_ne_nil_of_right_ne_nil _ (by decide)
    constructor
    · intro empty
      rw [empty] at atoms
      exact absurd (List.append_eq_nil_iff.mp atoms.symm).1 (filled _)
    · intro empty
      rw [empty] at atoms'
      exact absurd (List.append_eq_nil_iff.mp atoms'.symm).1 (filled _)

/-- Alike builders stand for the same statement. -/
theorem atoms_eq (h : Alike b b') : b.atoms = b'.atoms := by
  have ordering : b.ordering = b'.ordering := h.clauses .ordering (by decide)
  have groupBy : b.grouping.groupBy = b'.grouping.groupBy := h.clauses .groupBy (by decide)
  have having' : b.grouping.having = b'.grouping.having := h.clauses .having (by decide)
  have whole := ((h.same_whereClause.pushOptional b.ordering.clause).pushOptional
    b.grouping.groupByClause).pushOptional b.grouping.havingClause
  rw [atoms, atoms]
  refine whole.atoms.trans ?_
  rw [ordering, Grouping.groupByClause, groupBy, Grouping.havingClause, having']
  rfl

theorem toPositional_eq (h : Alike b b') (max : Nat) :
    b.statement.toPositional max = b'.statement.toPositional max := by
  rw [h.faithful.toPositional_eq, h.faithful'.toPositional_eq, h.atoms_eq]

end Alike

end Builder

/-! ## Calls on alike builders -/

/-- Each call about conditions appends one. -/
theorem Call.newConditions_ne_nil {call : Call} (about : call.part? = some .conditions)
    (slot : Nat) : call.newConditions slot ≠ [] := by
  cases call with
  | registerSource | join | select | selectMap | distinct | orderBy | groupBy | having | clear =>
    cases about
  | _ => exact List.cons_ne_nil _ _

theorem Call.isClear_of_part? {call : Call} {part : Part} (about : call.part? = some part) :
    call.isClear = false := by
  cases call with
  | clear => cases about
  | _ => rfl

namespace Builder

namespace Alike

variable {b b' : Builder}

/-- Calls about conditions that say the same keep builders alike. -/
theorem extend (h : Alike b b') {c c' : Call} (about : c.part? = some .conditions)
    (about' : c'.part? = some .conditions)
    (nested : ∀ field n, c = .subQuery field n → n.Faithful)
    (nested' : ∀ field n, c' = .subQuery field n → n.Faithful)
    (equal : c.atoms = c'.atoms) : Alike (b.apply c) (b'.apply c') := by
  have kept := Call.isClear_of_part? about
  have kept' := Call.isClear_of_part? about'
  have conditions : (b.apply c).conditions ≠ [] := by
    rw [apply_eq b kept]
    exact List.append_ne_nil_of_right_ne_nil _ (Call.newConditions_ne_nil about _)
  have conditions' : (b'.apply c').conditions ≠ [] := by
    rw [apply_eq b' kept']
    exact List.append_ne_nil_of_right_ne_nil _ (Call.newConditions_ne_nil about' _)
  refine ⟨h.faithful.apply c nested, h.faithful'.apply c' nested', fun part other => ?_,
    iff_of_false conditions conditions', ?_⟩
  · have front : Agree part (b.apply c) b :=
      agree_apply_self b kept (by rw [about]; simpa using other.symm)
    have back : Agree part (b'.apply c') b' :=
      agree_apply_self b' kept' (by rw [about']; simpa using other.symm)
    exact front.trans ((h.clauses part other).trans back.symm)
  · rw [h.faithful.body_apply kept nested, h.faithful'.body_apply kept' nested', h.body, equal]

/-- A merge of alike builders keeps builders alike. -/
theorem subQuery (h : Alike b b') (field : Option String) {n n' : Builder} (inner : Alike n n') :
    Alike (b.apply (.subQuery field n)) (b'.apply (.subQuery field n')) := by
  refine h.extend rfl rfl (fun _ _ merged => ?_) (fun _ _ merged => ?_) ?_
  · cases merged
    exact inner.faithful
  · cases merged
    exact inner.faithful'
  · rw [Call.atoms, Call.atoms, inner.atoms_eq]

/-- Any other call, made on both, keeps builders alike. -/
theorem apply (h : Alike b b') {c : Call} (plain : ∀ field nested, c ≠ .subQuery field nested) :
    Alike (b.apply c) (b'.apply c) := by
  have nested : ∀ field n, c = .subQuery field n → n.Faithful :=
    fun field n merged => absurd merged (plain field n)
  rcases c.eq_clear_or with rfl | kept
  · exact alike_refl faithful_empty
  by_cases about : c.part? = some .conditions
  · exact h.extend about about nested nested rfl
  · -- The conditions and the table stay as they were on both sides.
    obtain ⟨conditions, parameters, _⟩ := agree_apply_self b kept about
    obtain ⟨conditions', parameters', _⟩ := agree_apply_self b' kept about
    refine ⟨h.faithful.apply c nested, h.faithful'.apply c nested,
      fun part other => (h.clauses part other).apply kept, ?_, ?_⟩
    · rw [conditions, conditions', h.empty]
    · have same := h.body
      simp only [Builder.body, reading, conditions, conditions', parameters, parameters'] at same ⊢
      exact same

end Alike

/-! ## The same calls on two builders -/

/-- Two builders that come from `s` and `s'` in the same way: by the same calls, and by merges into
the same builders or into such a pair, at any depth. Builders that use neither are shared. -/
inductive Parallel (s s' : Builder) : Builder → Builder → Prop
  | start : Parallel s s' s s'
  | shared {b : Builder} : Reachable b → Parallel s s' b b
  | call {b b' : Builder} (call : Call) : Parallel s s' b b' →
      (∀ field nested, call ≠ .subQuery field nested) →
      Parallel s s' (b.apply call) (b'.apply call)
  | merge {b b' n n' : Builder} (field : Option String) : Parallel s s' b b' →
      Parallel s s' n n' → Parallel s s' (b.apply (.subQuery field n)) (b'.apply (.subQuery field n'))

theorem Parallel.run {s s' b b' : Builder} (h : Parallel s s' b b') {calls : List Call}
    (nested : ∀ field n, .subQuery field n ∈ calls → Reachable n) :
    Parallel s s' (b.run calls) (b'.run calls) := by
  induction calls generalizing b b' with
  | nil => exact h
  | cons call rest ih =>
    refine ih ?_ fun field n member => nested field n (List.mem_cons_of_mem _ member)
    cases call with
    | subQuery field n => exact h.merge field (.shared (nested field n List.mem_cons_self))
    | _ => exact h.call _ (by simp)

theorem Parallel.alike {s s' b b' : Builder} (h : Parallel s s' b b') (start : Alike s s') :
    Alike b b' := by
  induction h with
  | start => exact start
  | shared reached => exact alike_refl reached.faithful
  | call call _ plain ih => exact ih.apply plain
  | merge field _ _ ih inner => exact ih.subQuery field inner

/-! ## Collections -/

/-- Items that are no lists stand in the text as the items of one list would. -/
theorem atoms_collection (field : String) {vs : List Value} (scalars : ∀ v ∈ vs, v.items? = none) :
    (Call.inValues field vs false).atoms = (Call.inList field vs).atoms := by
  have single : ∀ v ∈ vs, ofValue v = [.place v] := by
    intro v member
    have scalar := scalars v member
    cases v with
    | list items => cases scalar
    | _ => rfl
  rw [Call.atoms, Call.atoms, List.map_congr_left single, ofValue]
  have keyword : ofText " in (" = ofText " in " ++ ofText "(" := rfl
  simp [keyword]

theorem alike_collection {b : Builder} (h : b.Faithful) (field : String) {vs : List Value}
    (scalars : ∀ v ∈ vs, v.items? = none) :
    Alike (b.apply (.inValues field vs false)) (b.apply (.inList field vs)) :=
  (alike_refl h).extend rfl rfl (by simp) (by simp) (atoms_collection field scalars)

/-- The clauses behind the body only add to it. -/
theorem exists_render (reading : Token → List Atom) (b : Builder) :
    ∃ tail, atomsOf reading b.render =
      atomsOf reading (whereClause b.lead b.conditions).fragments ++ tail := by
  let body := whereClause b.lead b.conditions
  let ordered := body.pushOptional b.ordering.clause
  let grouped := ordered.pushOptional b.grouping.groupByClause
  obtain ⟨first, ordering⟩ := body.exists_pushOptional reading b.ordering.clause
  obtain ⟨second, groupBy⟩ := ordered.exists_pushOptional reading b.grouping.groupByClause
  obtain ⟨third, whole⟩ := grouped.exists_pushOptional reading b.grouping.havingClause
  refine ⟨first ++ second ++ third, whole.trans ?_⟩
  simp only [grouped, groupBy, ordered, ordering, body, List.append_assoc]

/-- What stands before WHERE does not change by a call about conditions. -/
theorem lead_apply (b : Builder) {call : Call} (about : call.part? = some .conditions) :
    (b.apply call).lead = b.lead := by
  refine lead_congr fun part other => agree_apply_self b (Call.isClear_of_part? about) ?_
  rw [about]
  simpa using other.symm

/-- The named text after a call about conditions: what was there up to the end of the body, then
the new condition. -/
theorem exists_text_apply (b : Builder) (call : Call) (about : call.part? = some .conditions) :
    ∃ tail, (b.apply call).text.toList = Atom.text 1
      (atomsOf readName (b.lead.pushClause "WHERE ").fragments ++
        b.conditions.flatMap (Condition.atoms readName) ++
        ((call.newConditions b.counter.next).flatMap (Condition.atoms readName) ++ tail)) := by
  have conditions : (b.apply call).conditions =
      b.conditions ++ call.newConditions b.counter.next := by
    rw [apply_eq b (Call.isClear_of_part? about)]
  have filled : (b.apply call).conditions ≠ [] := by
    rw [conditions]
    exact List.append_ne_nil_of_right_ne_nil _ (Call.newConditions_ne_nil about _)
  have body := atomsOf_whereClause readName b.lead filled
  rw [← lead_apply b about] at body
  obtain ⟨tail, render⟩ := exists_render readName (b.apply call)
  refine ⟨tail, ?_⟩
  rw [text, ← text_atomsOf_readName 1, render, body, conditions, lead_apply b about]
  simp only [List.flatMap_append, List.append_assoc]

/-- The named texts part where one has a parenthesis and the other a placeholder. -/
theorem text_collection_ne (b : Builder) (field : String) (vs : List Value) :
    (b.apply (.inValues field vs false)).text ≠ (b.apply (.inList field vs)).text := by
  intro equal
  obtain ⟨tail, oneByOne⟩ := exists_text_apply b (.inValues field vs false) rfl
  obtain ⟨tail', atOnce⟩ := exists_text_apply b (.inList field vs) rfl
  have keyword : ofText " in (" = ofText " in " ++ [.char '('] := rfl
  have placeholder : readName (.own b.counter.next) =
      .char ':' :: ofText (Token.own b.counter.next).name := by
    simp [readName, Token.placeholder, ofText]
  rw [equal, atOnce] at oneByOne
  simp [Call.newConditions, Condition.atoms, Atom.text_append, keyword, placeholder, Atom.text]
    at oneByOne

theorem tokenCount_inValues (b : Builder) (field : String) (vs : List Value) :
    (b.apply (.inValues field vs false)).tokenCount = b.tokenCount + vs.length := by
  simp only [apply, inValues, bindAll_eq]
  simp [tokenCount, Counter.allocated, addCondition, grant]

/-- The two ways give out the same names for a single item and for no other number of items. -/
theorem names_collection_iff {b : Builder} (h : b.Numbered) (field : String) (vs : List Value) :
    (b.apply (.inValues field vs false)).namedParameters.keys =
        (b.apply (.inList field vs)).namedParameters.keys ↔ vs.length = 1 := by
  constructor
  · intro same
    have counts := congrArg List.length same
    rw [(h.apply _).length_names, (h.apply _).length_names, tokenCount_inValues] at counts
    exact Nat.add_left_cancel counts
  · intro single
    obtain ⟨v, rfl⟩ := List.length_eq_one_iff.mp single
    rw [h.names_apply rfl, h.names_apply rfl]
    rfl

/-- It makes no difference to a driver whether the items of a collection, none of them a list, are
bound one by one or under one token. The two builders have different named texts, and took as many
tokens as there are items or just one; so unless there is one item, they differ in the number of
tokens and in the names. But whatever calls follow on both, and whatever either is merged into at
any depth, every pair of builders that comes of it has one positional form, or is refused for one
number of values. -/
theorem positional_collection {b : Builder} (reached : Reachable b) (field : String)
    {vs : List Value} (scalars : ∀ v ∈ vs, v.items? = none) :
    let s := b.apply (.inValues field vs false)
    let s' := b.apply (.inList field vs)
    (∀ c c', Parallel s s' c c' →
        ∀ max, c.statement.toPositional max = c'.statement.toPositional max) ∧
      s.text ≠ s'.text ∧ s.tokenCount = b.tokenCount + vs.length ∧
      s'.tokenCount = b.tokenCount + 1 ∧ (s.tokenCount = s'.tokenCount ↔ vs.length = 1) ∧
      (s.namedParameters.keys = s'.namedParameters.keys ↔ vs.length = 1) := by
  intro s s'
  have start : Alike s s' := alike_collection reached.faithful field scalars
  have count : s.tokenCount = b.tokenCount + vs.length := tokenCount_inValues b field vs
  have count' : s'.tokenCount = b.tokenCount + 1 := rfl
  refine ⟨fun c c' parallel max => (parallel.alike start).toPositional_eq max,
    text_collection_ne b field vs, count, count', ?_,
    names_collection_iff reached.numbered field vs⟩
  rw [count, count', Nat.add_left_cancel_iff]

/-- Both forms of one statement, merged into a parent that goes on and then merges itself. -/
theorem positional_collection_merged :
    let s := betaCustomers.apply (.inValues "c.region" [.integer 1, .integer 2] false)
    let s' := betaCustomers.apply (.inList "c.region" [.integer 1, .integer 2])
    let orders := run {} [.compare "o.total" .greater (.integer 100), .connective .and]
    let parent (n : Builder) : Builder :=
      (orders.apply (.subQuery (some "o.customer") n)).run [.connective .or, .nullTest "o.state" true]
    let twice (n : Builder) : Builder := (parent n).apply (.subQuery none (parent n))
    Reachable betaCustomers ∧ (∀ v ∈ [Value.integer 1, .integer 2], v.items? = none) ∧
      s.tokenCount = 7 ∧ s'.tokenCount = 6 ∧ s.namedParameters.keys ≠ s'.namedParameters.keys ∧
      (twice s).statement.toPositional 16 = (twice s').statement.toPositional 16 ∧
      (twice s).statement.toPositional 15 = (twice s').statement.toPositional 15 := by
  intro s s' orders parent twice
  have scalars : ∀ v ∈ [Value.integer 1, .integer 2], v.items? = none := by simp [Value.items?]
  have reached : Reachable orders := Reachable.empty.run (by simp)
  have merged : Parallel s s' (parent s) (parent s') :=
    Parallel.run ((Parallel.shared reached).merge _ .start) (by simp)
  have both : Parallel s s' (twice s) (twice s') := merged.merge none merged
  obtain ⟨positional, _, count, count', _, names⟩ :=
    positional_collection reachable_betaCustomers "c.region" scalars
  exact ⟨reachable_betaCustomers, scalars, count, count', mt names.mp (by decide),
    positional _ _ both 16, positional _ _ both 15⟩

end Builder

end BoundQuery
