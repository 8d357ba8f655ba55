import BoundQuery.Proofs.Calls
import Mathlib.Data.List.Nodup

/-!
# The parameter table of a run

Slots are given out in sequence and every slot goes into the table at once. So the place of an
entry is the slot of its token, whatever mixture of comparisons, collections, map entries and
merges filled the table.

Results:
1. `Token.slot_eq_of_name_eq`: a name determines the slot, so distinct slots have distinct names.
2. `Numbered.apply`: every call keeps the numbering of the table.
3. `parameterTable_run`: the whole table of a run, from the calls alone.
-/

namespace BoundQuery

/-! ## Token names -/

namespace Token

theorem name_ends (token : Token) :
    ∃ front, token.name.toList = front ++ '_' :: Nat.toDigits 10 token.slot := by
  cases token with
  | own slot => exact ⟨[], by simp [name, Token.slot]⟩
  | merged origin slot => exact ⟨"sub".toList ++ origin.name.toList, by simp [name, Token.slot]⟩

/-- Digits hold no underscore, so the slot stands behind the last one. -/
theorem slotDigits_of_name (token : Token) :
    token.name.toList.rtakeWhile (· != '_') = Nat.toDigits 10 token.slot := by
  obtain ⟨front, ends⟩ := name_ends token
  have digits : ∀ c ∈ (Nat.toDigits 10 token.slot).reverse, (c != '_') = true := by
    intro c member
    rw [bne_iff_ne]
    rintro rfl
    exact Nat.underscore_not_in_toDigits (List.mem_reverse.mp member)
  rw [ends, List.rtakeWhile, List.reverse_append, List.reverse_cons, List.append_assoc,
    List.takeWhile_append_of_pos digits]
  simp

theorem slot_eq_of_name_eq {a b : Token} (same : a.name = b.name) : a.slot = b.slot := by
  have digits : Nat.toDigits 10 a.slot = Nat.toDigits 10 b.slot := by
    rw [← slotDigits_of_name, ← slotDigits_of_name, same]
  calc
    a.slot = Nat.ofDigitChars 10 (Nat.toDigits 10 a.slot) 0 := Nat.ofDigitChars_ten_toDigits.symm
    _ = b.slot := by rw [digits, Nat.ofDigitChars_ten_toDigits]

end Token

/-! ## Issued entries -/

/-- The values a call supplies, in order. A merge supplies those of the nested table. -/
def Call.supplied : Call → List Value
  | .compare _ _ value => [value]
  | .inValues _ values _ => values
  | .inList _ values => [.list values]
  | .mapEquals _ key value => [key, value]
  | .subQuery _ nested => nested.parameters.values
  | _ => []

theorem Call.values_requests (call : Call) : call.requests.map Prod.snd = call.supplied := by
  cases call <;> simp [requests, supplied, Table.values, Function.comp_def]

@[simp] theorem length_issued (start : Nat) (requests : List (Option Token × Value)) :
    (issued start requests).length = requests.length := by
  fun_induction issued start requests with
  | case1 => rfl
  | case2 start origin value rest ih => simp [ih]

@[simp] theorem values_issued (start : Nat) (requests : List (Option Token × Value)) :
    (issued start requests).map Prod.snd = requests.map Prod.snd := by
  fun_induction issued start requests with
  | case1 => rfl
  | case2 start origin value rest ih => simp [ih]

/-- The issued tokens come from slots and origins; the values have no part in them. -/
theorem tokens_issued (start : Nat) (requests : List (Option Token × Value)) :
    (issued start requests).map Prod.fst =
      (requests.map Prod.fst).mapIdx fun i origin => Token.issue (start + i) origin := by
  fun_induction issued start requests with
  | case1 => rfl
  | case2 start origin value rest ih =>
    simp [ih, List.mapIdx_cons, Nat.add_assoc, Nat.add_comm 1]

theorem slots_issued (start : Nat) (requests : List (Option Token × Value)) :
    ((issued start requests).map Prod.fst).map Token.slot = List.range' start requests.length := by
  fun_induction issued start requests with
  | case1 => rfl
  | case2 start origin value rest ih =>
    rw [List.map_cons, List.map_cons, ih, Token.slot_issue, List.length_cons, List.range'_succ]

theorem range_append_range' (m n : Nat) :
    List.range m ++ List.range' m n = List.range (m + n) := by
  rw [List.range_eq_range', List.range_eq_range', ← List.range'_append_1, Nat.zero_add]

namespace Builder

/-! ## Numbering -/

/-- The slots of the tokens in the table are `0, 1, 2, …` up to the counter. -/
def Numbered (b : Builder) : Prop :=
  b.parameters.keys.map Token.slot = List.range b.counter.next

theorem numbered_empty : Numbered {} := rfl

namespace Numbered

variable {b : Builder}

theorem size_eq (h : b.Numbered) : b.parameters.size = b.tokenCount := by
  have lengths := congrArg List.length h
  simpa [Table.keys, Table.size, tokenCount, Counter.allocated] using lengths

theorem nodup_names (h : b.Numbered) : (b.parameters.keys.map Token.name).Nodup := by
  have slots : (b.parameters.keys.map Token.slot).Nodup := by
    rw [h]
    exact List.nodup_range
  rw [List.Nodup, List.pairwise_map] at slots ⊢
  exact slots.imp fun differ same => differ (Token.slot_eq_of_name_eq same)

/-- Distinct names: the table under names has the same entries in the same order. -/
theorem entries_namedParameters (h : b.Numbered) :
    b.namedParameters.entries =
      b.parameters.entries.map fun entry => (entry.1.name, entry.2) := by
  refine Table.entries_ofList ?_
  simpa [Table.keys, Function.comp_def] using h.nodup_names

theorem keys_namedParameters (h : b.Numbered) :
    b.namedParameters.keys = b.parameters.keys.map Token.name := by
  rw [Table.keys, h.entries_namedParameters, Table.keys, List.map_map, List.map_map]
  rfl

/-- There is one name for each token that was allocated. -/
theorem length_names (h : b.Numbered) : b.namedParameters.keys.length = b.tokenCount := by
  rw [h.keys_namedParameters, List.length_map, ← h.size_eq, Table.keys, List.length_map]
  rfl

theorem nodup_keys (h : b.Numbered) : b.parameters.keys.Nodup := h.nodup_names.of_map

theorem slot_of_getElem? (h : b.Numbered) {i : Nat} {token : Token} {value : Value}
    (entry : b.parameters.entries[i]? = some (token, value)) : token.slot = i := by
  have slot : (b.parameters.keys.map Token.slot)[i]? = some token.slot := by
    simp [Table.keys, entry]
  rw [h] at slot
  obtain ⟨_, equal⟩ := List.getElem?_eq_some_iff.mp slot
  rw [← equal, List.getElem_range]

theorem slots_grant (h : b.Numbered) (requests : List (Option Token × Value)) :
    (b.parameters.keys ++ (issued b.counter.next requests).map Prod.fst).map Token.slot =
      List.range (b.grant requests).counter.next := by
  rw [List.map_append, h, slots_issued, range_append_range']
  rfl

/-- Slots from the counter on are new to the table, so granted entries are appended. -/
theorem entries_grant (h : b.Numbered) (requests : List (Option Token × Value)) :
    (b.grant requests).parameters.entries =
      b.parameters.entries ++ issued b.counter.next requests := by
  -- Distinct slots make distinct tokens, so no insertion meets an entry.
  refine Table.entries_insertAll _ _ (List.Nodup.of_map Token.slot ?_)
  rw [h.slots_grant]
  exact List.nodup_range

theorem keys_grant (h : b.Numbered) (requests : List (Option Token × Value)) :
    (b.grant requests).parameters.keys =
      b.parameters.keys ++ (issued b.counter.next requests).map Prod.fst := by
  rw [Table.keys, h.entries_grant, List.map_append]
  rfl

theorem grant (h : b.Numbered) (requests : List (Option Token × Value)) :
    (b.grant requests).Numbered := by
  rw [Numbered, h.keys_grant, h.slots_grant]

/-- Under a numbered table a lookup finds exactly the entries. -/
theorem find?_eq_some_iff (h : b.Numbered) {token : Token} {value : Value} :
    b.parameters.find? token = some value ↔ (token, value) ∈ b.parameters.entries :=
  Table.lookup_eq_some_iff h.nodup_keys

/-- Every call keeps the numbering; `clear` starts it anew. -/
theorem apply (h : b.Numbered) (call : Call) : (b.apply call).Numbered := by
  rcases call.eq_clear_or with rfl | kept
  · exact numbered_empty
  · have step := apply_eq b kept
    have granted := h.grant call.requests
    rw [Numbered] at granted ⊢
    rw [step]
    exact granted

/-- The names of issued tokens follow those that are there. -/
theorem names_apply (h : b.Numbered) {call : Call} (kept : call.isClear = false) :
    (b.apply call).namedParameters.keys = b.namedParameters.keys ++
      (issued b.counter.next call.requests).map fun entry => entry.1.name := by
  have keys : (b.apply call).parameters.keys = (b.grant call.requests).parameters.keys := by
    rw [apply_eq b kept]
  rw [(h.apply call).keys_namedParameters, keys, h.keys_grant, List.map_append,
    h.keys_namedParameters, List.map_map]
  rfl

theorem run (h : b.Numbered) (calls : List Call) : (b.run calls).Numbered := by
  induction calls generalizing b with
  | nil => exact h
  | cons call rest ih => exact ih (h.apply call)

end Numbered

theorem Reachable.numbered {b : Builder} (reached : Reachable b) : b.Numbered := by
  induction reached with
  | empty => exact numbered_empty
  | call call _ _ ih => exact ih.apply call

/-! ## Whole runs -/

/-- Without `clear` a table only grows, and all it gets are entries for fresh slots. -/
theorem Numbered.entries_run {b : Builder} (h : b.Numbered) {calls : List Call}
    (kept : ∀ call ∈ calls, call.isClear = false) :
    (b.run calls).parameters.entries =
      b.parameters.entries ++ issued b.counter.next (calls.flatMap Call.requests) := by
  rw [(run_grants b kept).1, h.entries_grant]

theorem entries_run (calls : List Call) :
    (run {} calls).parameters.entries =
      issued 0 ((Call.sinceClear calls).flatMap Call.requests) := by
  rw [run_sinceClear]
  exact numbered_empty.entries_run fun _ => Call.isClear_of_mem_sinceClear

theorem values_run (calls : List Call) :
    (run {} calls).parameters.values = (Call.sinceClear calls).flatMap Call.supplied := by
  rw [Table.values, entries_run, values_issued, List.map_flatMap]
  exact congrArg (List.flatMap · _) (funext Call.values_requests)

/-- The parameter table of any run from the start. It has an entry for each allocated token; the
entry at a place has the slot of that number; names are distinct, so the table under names has the
same entries in the same order; and the values are those supplied since the last `clear`, in call
order, those of a nested table standing where it was merged. Nested builders may be any, earlier
states of the run among them. -/
theorem parameterTable_run (calls : List Call) :
    let b := run {} calls
    b.parameters.size = b.tokenCount ∧
      (∀ (i : Nat) (token : Token) (value : Value),
        b.parameters.entries[i]? = some (token, value) → token.slot = i) ∧
      (b.parameters.keys.map Token.name).Nodup ∧
      b.namedParameters.size = b.tokenCount ∧
      b.namedParameters.entries = b.parameters.entries.map (fun entry => (entry.1.name, entry.2)) ∧
      b.parameters.values = (Call.sinceClear calls).flatMap Call.supplied := by
  intro b
  have numbered : b.Numbered := numbered_empty.run calls
  refine ⟨numbered.size_eq, fun _ _ _ => numbered.slot_of_getElem?, numbered.nodup_names,
    ?_, numbered.entries_namedParameters, values_run calls⟩
  rw [Table.size, numbered.entries_namedParameters, List.length_map]
  exact numbered.size_eq

end Builder

end BoundQuery
