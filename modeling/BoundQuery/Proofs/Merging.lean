import BoundQuery.Proofs.References

/-!
# Merging keeps meaning

The meaning of a statement is its text with each reference replaced by the value bound to it.
Nested tokens look like the parent's own, so a merge has to rename without capture, and later
bindings must leave the merged entries alone.

Results:
1. `resolve?_rename`: renaming keeps meaning if the new names are bound to the old values.
2. `Faithful.exists_renamed`: a merge issues a fresh token with the same value for each reference.
3. `subQuery_keeps_meaning`: merged fragments keep their meaning in the parent from then on.
-/

namespace BoundQuery

/-! ## Meaning -/

/-- A piece of a statement whose references are replaced by values. -/
inductive Piece where
  | text (s : String)
  | value (v : Value)

/-- What a fragment stands for; nothing if it refers to a token without a value. -/
def Fragment.resolve? (table : Table Token Value) : Fragment → Option Piece
  | text s => some (.text s)
  | param token => (table.find? token).map .value

/-- What a fragment list stands for, if all its references are bound. -/
def resolve? (table : Table Token Value) (fragments : List Fragment) : Option (List Piece) :=
  fragments.mapM (Fragment.resolve? table)

theorem resolve?_rename {table table' : Table Token Value} {renames : Table Token Token}
    {fragments : List Fragment}
    (same : ∀ token ∈ tokensOf fragments,
      table'.find? ((renames.find? token).getD token) = table.find? token) :
    resolve? table' (fragments.map (Fragment.rename renames)) = resolve? table fragments := by
  induction fragments with
  | nil => rfl
  | cons fragment rest ih =>
    simp only [resolve?, List.map_cons, List.mapM_cons] at ih ⊢
    cases fragment with
    | text s => rw [ih same]; rfl
    | param token =>
      have here := same token List.mem_cons_self
      have later := ih fun token member => same token (List.mem_cons_of_mem _ member)
      rw [later, Fragment.rename, Fragment.resolve?, Fragment.resolve?, here]

theorem exists_resolve? {table : Table Token Value} {fragments : List Fragment}
    (bound : ∀ token ∈ tokensOf fragments, ∃ value, table.find? token = some value) :
    ∃ pieces, resolve? table fragments = some pieces := by
  induction fragments with
  | nil => exact ⟨[], rfl⟩
  | cons fragment rest ih =>
    simp only [resolve?, List.mapM_cons] at ih ⊢
    cases fragment with
    | text s =>
      obtain ⟨pieces, resolved⟩ := ih bound
      exact ⟨.text s :: pieces, by simp [Fragment.resolve?, resolved]⟩
    | param token =>
      obtain ⟨value, found⟩ := bound token List.mem_cons_self
      obtain ⟨pieces, resolved⟩ := ih fun token member => bound token (List.mem_cons_of_mem _ member)
      exact ⟨.value value :: pieces, by simp [Fragment.resolve?, found, resolved]⟩

/-! ## Merged tokens -/

/-- Each nested entry is issued again, under a merged token with a slot of its own. -/
theorem exists_issued_of_mem (slot : Nat) {entries : List (Token × Value)} {token : Token}
    {value : Value} (member : (token, value) ∈ entries) :
    ∃ fresh, slot ≤ fresh ∧ fresh < slot + entries.length ∧
      (token, .merged token fresh) ∈ mergedNames slot (entries.map Prod.fst) ∧
      (.merged token fresh, value) ∈
        issued slot (entries.map fun entry => (some entry.1, entry.2)) := by
  induction entries generalizing slot with
  | nil => cases member
  | cons entry rest ih =>
    rcases List.mem_cons.mp member with equal | inRest
    · subst equal
      exact ⟨slot, Nat.le_refl _, by simp, List.mem_cons_self, List.mem_cons_self⟩
    · obtain ⟨fresh, low, high, renamed, issued⟩ := ih (slot + 1) inRest
      refine ⟨fresh, by omega, ?_, List.mem_cons_of_mem _ renamed, List.mem_cons_of_mem _ issued⟩
      rw [List.length_cons]
      omega

namespace Builder

/-- A reference of a nested statement is bound, and a merge at `slot` renames it to a merged token
with a slot from there on, issued for the same value. -/
theorem Faithful.exists_renamed {nested : Builder} (h : nested.Faithful) (slot : Nat)
    {token : Token} (member : token ∈ tokensOf nested.render) :
    ∃ value fresh, nested.parameters.find? token = some value ∧
      slot ≤ fresh ∧ fresh < slot + nested.tokenCount ∧
      (Table.ofList (mergedNames slot nested.parameters.keys)).find? token =
        some (.merged token fresh) ∧
      (.merged token fresh, value) ∈
        issued slot (nested.parameters.entries.map fun entry => (some entry.1, entry.2)) := by
  rw [h.tokensOf_render, Table.keys] at member
  obtain ⟨⟨_, value⟩, entry, rfl⟩ := List.mem_map.mp member
  obtain ⟨fresh, low, high, renamed, issued⟩ := exists_issued_of_mem slot entry
  refine ⟨value, fresh, h.numbered.find?_eq_some_iff.mpr entry, low, ?_,
    find?_mergedNames h.numbered.nodup_keys renamed, issued⟩
  rwa [← h.numbered.size_eq]

/-- The counter after a merge: a slot was taken for each token of the nested builder. -/
theorem tokenCount_subQuery (parent : Builder) {nested : Builder} (h : nested.Numbered)
    (field : Option String) :
    (parent.apply (.subQuery field nested)).tokenCount = parent.tokenCount + nested.tokenCount := by
  rw [← h.size_eq, apply_eq parent rfl]
  simp [tokenCount, Counter.allocated, grant, Call.requests, Table.size]

/-- The entries of a table and those issued by a merge are in the table of any later state. -/
theorem Numbered.mem_entries_run {parent : Builder} (h : parent.Numbered) (nested : Builder)
    (field : Option String) {calls : List Call} (kept : .clear ∉ calls)
    {entry : Token × Value}
    (member : entry ∈ parent.parameters.entries ++
      issued parent.counter.next
        (nested.parameters.entries.map fun entry => (some entry.1, entry.2))) :
    entry ∈ ((parent.apply (.subQuery field nested)).run calls).parameters.entries := by
  have unclear : ∀ call ∈ .subQuery field nested :: calls, call.isClear = false :=
    Call.isClear_of_notMem (by simpa using kept)
  rw [← run_cons, h.entries_run unclear, List.flatMap_cons, issued_append, ← List.append_assoc]
  exact List.mem_append_left _ member

/-- The condition a merge appends stays in its place. -/
theorem conditions_subQuery (parent nested : Builder) (field : Option String) {calls : List Call}
    (kept : .clear ∉ calls) :
    ((parent.apply (.subQuery field nested)).run calls).conditions[parent.conditions.length]? =
      some (.subQuery field (nested.render.map (Fragment.rename
        (.ofList (mergedNames parent.counter.next nested.parameters.keys))))) := by
  obtain ⟨later, conditions⟩ := conditions_prefix_run (parent.apply (.subQuery field nested))
    (Call.isClear_of_notMem kept)
  rw [← conditions, apply_eq parent rfl]
  simp [Call.newConditions]

/-- After a merge and any later calls but `clear`, the merged fragments stand in the parent's table
for what the nested statement stood for in its own, every reference in them is a merged token with
a slot taken by that merge, and the tokens the parent held before keep their values. -/
theorem subQuery_keeps_meaning {parent nested : Builder} (reached : Reachable parent)
    (inner : Reachable nested) (field : Option String) {calls : List Call}
    (kept : .clear ∉ calls) :
    let merged := parent.apply (.subQuery field nested)
    let b := merged.run calls
    ∃ fragments pieces,
      b.conditions[parent.conditions.length]? = some (.subQuery field fragments) ∧
      resolve? nested.parameters nested.render = some pieces ∧
      resolve? b.parameters fragments = some pieces ∧
      (∀ token ∈ tokensOf fragments, ∃ origin slot, token = .merged origin slot ∧
        origin ∈ nested.parameters.keys ∧ parent.tokenCount ≤ slot ∧ slot < merged.tokenCount) ∧
      ∀ token value, parent.parameters.find? token = some value →
        b.parameters.find? token = some value := by
  intro merged b
  have before : parent.Numbered := reached.numbered
  have faithful : nested.Faithful := inner.faithful
  have after : b.Numbered := (before.apply _).run calls
  -- What the parent held and what the merge issued is there to the end.
  have present {token : Token} {value : Value}
      (member : (token, value) ∈ parent.parameters.entries ++ issued parent.counter.next
        (nested.parameters.entries.map fun entry => (some entry.1, entry.2))) :
      b.parameters.find? token = some value :=
    after.find?_eq_some_iff.mpr (before.mem_entries_run nested field kept member)
  obtain ⟨pieces, meaning⟩ : ∃ pieces, resolve? nested.parameters nested.render = some pieces := by
    refine exists_resolve? fun token member => ?_
    obtain ⟨value, _, found, _⟩ := faithful.exists_renamed parent.counter.next member
    exact ⟨value, found⟩
  refine ⟨_, pieces, conditions_subQuery parent nested field kept, meaning, ?_, ?_, ?_⟩
  · -- The new name of a reference is bound to the value of the old one.
    rw [← meaning]
    refine resolve?_rename fun token member => ?_
    obtain ⟨value, fresh, found, _, _, renamed, issued⟩ :=
      faithful.exists_renamed parent.counter.next member
    rw [renamed, Option.getD_some, found]
    exact present (List.mem_append_right _ issued)
  · intro token member
    rw [tokensOf_rename] at member
    obtain ⟨origin, reference, rfl⟩ := List.mem_map.mp member
    obtain ⟨value, fresh, found, low, high, renamed, _⟩ :=
      faithful.exists_renamed parent.counter.next reference
    refine ⟨origin, fresh, by rw [renamed, Option.getD_some], ?_, low, ?_⟩
    · rwa [← faithful.tokensOf_render]
    · rwa [tokenCount_subQuery parent faithful.numbered]
  · intro token value held
    exact present (List.mem_append_left _ (before.find?_eq_some_iff.mp held))

/-- A statement that merges a copy of itself and goes on: the copy means what the statement did. -/
theorem copy_keeps_meaning :
    let b := (betaCustomers.apply (.subQuery none betaCustomers)).run
      [.compare "c.id" .equal (.integer 7), .subQuery none openOrders]
    Reachable betaCustomers ∧ ∃ fragments pieces,
      b.conditions[3]? = some (.subQuery none fragments) ∧
      resolve? betaCustomers.parameters betaCustomers.render = some pieces ∧
      resolve? b.parameters fragments = some pieces ∧
      b.parameters.find? (.own 0) = some (.text "beta") := by
  intro b
  have kept : .clear ∉
      ([.compare "c.id" .equal (.integer 7), .subQuery none openOrders] : List Call) := by simp
  obtain ⟨fragments, pieces, place, before, after, _, held⟩ :=
    subQuery_keeps_meaning reachable_betaCustomers reachable_betaCustomers none kept
  exact ⟨reachable_betaCustomers, fragments, pieces, place, before, after, held _ _ rfl⟩

end Builder

end BoundQuery
