import BoundQuery.Proofs.Allocation

/-!
# References of a rendered statement

Conditions and table are filled side by side: a call appends to both, and what it appends to the
conditions refers to what it appends to the table. For a merge this needs the same of the nested
builder, since slots go by the nested table and new names by the nested text.

Results:
1. `rename_eq_mergedNames`: renaming sends the nested keys to the tokens issued for them.
2. `Faithful.apply`: every call keeps conditions and table in step.
3. `tokensOf_render_eq_keys`: the references of the text are the keys of the table, in order.
-/

namespace BoundQuery

/-! ## Renaming -/

@[simp] theorem keys_mergedNames (slot : Nat) (tokens : List Token) :
    (mergedNames slot tokens).map Prod.fst = tokens := by
  fun_induction mergedNames slot tokens with
  | case1 => rfl
  | case2 slot token rest ih => simp [ih]

/-- The new names are the tokens under which the nested values are issued. -/
theorem values_mergedNames (slot : Nat) (entries : List (Token × Value)) :
    (mergedNames slot (entries.map Prod.fst)).map Prod.snd =
      (issued slot (entries.map fun entry => (some entry.1, entry.2))).map Prod.fst := by
  induction entries generalizing slot with
  | nil => rfl
  | cons entry rest ih => simp [mergedNames, issued, Token.issue, ih]

theorem find?_mergedNames {slot : Nat} {tokens : List Token} (distinct : tokens.Nodup)
    {token renamed : Token} (member : (token, renamed) ∈ mergedNames slot tokens) :
    (Table.ofList (mergedNames slot tokens)).find? token = some renamed := by
  have keys : ((mergedNames slot tokens).map Prod.fst).Nodup := by rwa [keys_mergedNames]
  rw [Table.find?, Table.entries_ofList keys]
  exact Table.lookup_of_mem keys member

theorem rename_eq_mergedNames (slot : Nat) {tokens : List Token} (distinct : tokens.Nodup) :
    tokens.map (fun token =>
        ((Table.ofList (mergedNames slot tokens)).find? token).getD token) =
      (mergedNames slot tokens).map Prod.snd := by
  conv_lhs => arg 2; rw [← keys_mergedNames slot tokens]
  rw [List.map_map]
  refine List.map_congr_left fun entry member => ?_
  rw [Function.comp_apply, find?_mergedNames distinct member, Option.getD_some]

theorem issued_own (slot : Nat) (values : List Value) :
    (issued slot (values.map fun value => (none, value))).map Prod.fst =
      (List.range' slot values.length).map .own := by
  induction values generalizing slot with
  | nil => rfl
  | cons value rest ih => simp [issued, Token.issue, ih, List.range'_succ]

namespace Builder

/-! ## Conditions and table -/

theorem tokensOf_render (b : Builder) :
    tokensOf b.render = b.conditions.flatMap Condition.tokens := by
  -- Only WHERE writes references; what stands before it and behind it is plain text.
  have select : tokensOf b.selectClause.fragments = [] := by
    rw [selectClause]
    split <;> simp
  rw [render]
  simp only [Buffer.tokensOf_pushOptional, whereClause]
  split
  · next none => simp [List.isEmpty_iff.mp none, select]
  · simp [Condition.tokensOf_writeAll, select]

/-- Conditions and table go together: the table is numbered, and the conditions refer to its
tokens, each once and in table order. -/
structure Faithful (b : Builder) : Prop where
  numbered : b.Numbered
  tokens : b.conditions.flatMap Condition.tokens = b.parameters.keys

theorem faithful_empty : Faithful {} := ⟨numbered_empty, rfl⟩

namespace Faithful

variable {b : Builder}

theorem tokensOf_render (h : b.Faithful) : tokensOf b.render = b.parameters.keys :=
  b.tokensOf_render.trans h.tokens

/-- What a nested builder renders under its new names are the tokens issued for its table. -/
theorem tokensOf_renamed (h : b.Faithful) (slot : Nat) :
    tokensOf (b.render.map
        (Fragment.rename (.ofList (mergedNames slot b.parameters.keys)))) =
      (issued slot (b.parameters.entries.map fun entry => (some entry.1, entry.2))).map
        Prod.fst := by
  rw [tokensOf_rename, h.tokensOf_render, rename_eq_mergedNames slot h.numbered.nodup_keys]
  exact values_mergedNames slot b.parameters.entries

end Faithful

theorem tokens_newConditions (call : Call) (slot : Nat)
    (nested : ∀ field n, call = .subQuery field n → n.Faithful) :
    (call.newConditions slot).flatMap Condition.tokens =
      (issued slot call.requests).map Prod.fst := by
  cases call with
  | subQuery field n =>
    -- Renaming goes through the text and issuing through the table: `n.Faithful` joins them.
    have renamed := (nested field n rfl).tokensOf_renamed slot
    simpa [Call.newConditions, Call.requests, Condition.tokens] using renamed
  | inValues field values negated =>
    simp [Call.newConditions, Call.requests, Condition.tokens, issued_own]
  | _ => simp [Call.newConditions, Call.requests, Condition.tokens, issued, Token.issue]

/-- Every call keeps conditions and table in step, if what it merges is. -/
theorem Faithful.apply {b : Builder} (h : b.Faithful) (call : Call)
    (nested : ∀ field n, call = .subQuery field n → n.Faithful) : (b.apply call).Faithful := by
  refine ⟨h.numbered.apply call, ?_⟩
  rcases call.eq_clear_or with rfl | kept
  · rfl
  · rw [apply_eq b kept]
    show (b.conditions ++ call.newConditions b.counter.next).flatMap Condition.tokens =
      (b.grant call.requests).parameters.keys
    rw [List.flatMap_append, h.tokens, tokens_newConditions call _ nested, h.numbered.keys_grant]

theorem Reachable.faithful {b : Builder} (reached : Reachable b) : b.Faithful := by
  induction reached with
  | empty => exact faithful_empty
  | call call _ _ ih inner => exact ih.apply call inner

/-- The token references of a rendered statement, read from left to right, are the keys of the
parameter table in table order: every placeholder is bound, and every bound value is used exactly
once. -/
theorem tokensOf_render_eq_keys {b : Builder} (reached : Reachable b) :
    tokensOf b.render = b.parameters.keys :=
  reached.faithful.tokensOf_render

/-- A statement for others to merge. -/
def openOrders : Builder :=
  run {} [.select .field (some "o.customer"), .compare "o.total" .greater (.integer 100),
    .connective .and, .inValues "o.state" [.text "open", .text "paid"] false]

theorem reachable_openOrders : Reachable openOrders := Reachable.empty.run (by simp)

/-- A statement that merges `openOrders`. -/
def betaCustomers : Builder :=
  run {} [.mapEquals "c.flags" (.text "beta") (.boolean true), .connective .and,
    .subQuery (some "c.id") openOrders]

theorem reachable_betaCustomers : Reachable betaCustomers :=
  Reachable.empty.run (by simp [reachable_openOrders])

/-- The references of a statement that merges a merging one, in the order of its text. -/
theorem tokensOf_render_nested :
    Reachable (run {} [.subQuery none betaCustomers, .inList "d" [.null]]) ∧
      tokensOf (run {} [.subQuery none betaCustomers, .inList "d" [.null]]).render =
        [.merged (.own 0) 0, .merged (.own 1) 1, .merged (.merged (.own 0) 2) 2,
          .merged (.merged (.own 1) 3) 3, .merged (.merged (.own 2) 4) 4, .own 5] := by
  have reached : Reachable (run {} [.subQuery none betaCustomers, .inList "d" [.null]]) :=
    Reachable.empty.run (by simp [reachable_betaCustomers])
  exact ⟨reached, (tokensOf_render_eq_keys reached).trans rfl⟩

end Builder

end BoundQuery
