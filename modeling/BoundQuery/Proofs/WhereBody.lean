import BoundQuery.Proofs.Merging
import BoundQuery.Proofs.Positional

/-!
# The body of WHERE, call by call

Read with the values of its own table, a condition stands for a row of atoms in which no token is
left. Every call appends atoms of its own to the body, and these come from the call alone: neither
the slots it takes nor the table it finds show in them. A merge appends what the nested builder
stands for.

Results:
1. `Condition.atomsOf_write`: rendering a condition appends its atoms.
2. `Faithful.body_apply`: a call appends `Call.atoms`, whatever slots it is given.
3. `Faithful.toPositional_eq`: the positional form of a builder is `layOut` of its atoms.
-/

namespace BoundQuery

open Atom (ofText ofValue)

/-! ## Growing buffers -/

namespace Buffer

variable (reading : Token → List Atom)

theorem atomsOf_appendText (s : String) (fragments : List Fragment) :
    atomsOf reading (appendText s fragments) = atomsOf reading fragments ++ ofText s := by
  fun_induction appendText s fragments with
  | case1 => simp [atomsOf, Fragment.atoms]
  | case2 last => simp [atomsOf, Fragment.atoms]
  | case3 fragment rest _ ih => rw [atomsOf_cons, atomsOf_cons, ih, List.append_assoc]

@[simp] theorem atomsOf_pushText (buffer : Buffer) (s : String) :
    atomsOf reading (buffer.pushText s).fragments =
      atomsOf reading buffer.fragments ++ ofText s := by
  rw [pushText]
  split
  · next empty => rw [empty, Atom.ofText_empty, List.append_nil]
  · exact atomsOf_appendText reading s buffer.fragments

@[simp] theorem atomsOf_pushParam (buffer : Buffer) (token : Token) :
    atomsOf reading (buffer.pushParam token).fragments =
      atomsOf reading buffer.fragments ++ reading token := by
  simp [pushParam, atomsOf, Fragment.atoms]

@[simp] theorem atomsOf_splice (buffer : Buffer) (fragments : List Fragment) :
    atomsOf reading (buffer.splice fragments).fragments =
      atomsOf reading buffer.fragments ++ atomsOf reading fragments := by
  induction fragments generalizing buffer with
  | nil => exact (List.append_nil _).symm
  | cons fragment rest ih =>
    have step := ih (buffer.push fragment)
    rw [splice] at step ⊢
    rw [List.foldl_cons, step, atomsOf_cons, ← List.append_assoc]
    cases fragment <;> simp [push, Fragment.atoms]

end Buffer

/-! ## Conditions -/

namespace Condition

/-- The field before a nested statement. -/
def fieldText : Option String → String
  | some field => field ++ " in "
  | none => ""

/-- What a condition stands for. -/
def atoms (reading : Token → List Atom) : Condition → List Atom
  | compare field comparison (.param token) =>
    ofText (field ++ " " ++ comparison.symbol ++ " ") ++ reading token
  | compare field comparison (.field other) =>
    ofText (field ++ " " ++ comparison.symbol ++ " " ++ other)
  | oneOf field tokens negated =>
    ofText (field ++ if negated then " not in (" else " in (") ++
      (ofText ", ").intercalate (tokens.map reading) ++ ofText ")"
  | inList field token => ofText (field ++ " in ") ++ reading token
  | nullTest field negated =>
    ofText (" " ++ field ++ if negated then " is not null " else " is null ")
  | mapEntry field key value =>
    ofText (field ++ "[") ++ reading key ++ ofText "] = " ++ reading value
  | connective c => ofText c.text
  | parenthesis mark => ofText mark.text
  | subQuery field fragments =>
    ofText (fieldText field ++ "(") ++ atomsOf reading fragments ++ ofText ")"

variable (reading : Token → List Atom)

theorem atomsOf_writeTokens (buffer : Buffer) (tokens : List Token) :
    atomsOf reading (writeTokens buffer tokens).fragments =
      atomsOf reading buffer.fragments ++ (ofText ", ").intercalate (tokens.map reading) := by
  fun_induction writeTokens buffer tokens with
  | case1 buffer => simp
  | case2 buffer token => simp
  | case3 buffer token next rest ih =>
    simp only [ih, List.map_cons, List.intercalate_cons_cons]
    simp

theorem atomsOf_write (buffer : Buffer) (condition : Condition) :
    atomsOf reading (write buffer condition).fragments =
      atomsOf reading buffer.fragments ++ condition.atoms reading := by
  cases condition with
  | compare field comparison operand => cases operand <;> simp [write, atoms]
  | oneOf field tokens negated => simp [write, atoms, atomsOf_writeTokens]
  | subQuery field fragments => cases field <;> simp [write, atoms, fieldText]
  | _ => simp [write, atoms]

/-- Rendering conditions appends their atoms one after another. -/
theorem atomsOf_writeAll (buffer : Buffer) (conditions : List Condition) :
    atomsOf reading (writeAll buffer conditions).fragments =
      atomsOf reading buffer.fragments ++ conditions.flatMap (atoms reading) := by
  induction conditions generalizing buffer with
  | nil => simp [writeAll]
  | cons condition rest ih =>
    have step := ih (write buffer condition)
    rw [writeAll] at step ⊢
    rw [List.foldl_cons, step, atomsOf_write, List.flatMap_cons, List.append_assoc]

variable {reading}

/-- A condition reads its own tokens only. -/
theorem atoms_congr {reading' : Token → List Atom} {condition : Condition}
    (same : ∀ token ∈ condition.tokens, reading token = reading' token) :
    condition.atoms reading = condition.atoms reading' := by
  cases condition with
  | compare field comparison operand =>
    cases operand with
    | param token => rw [atoms, atoms, same token List.mem_cons_self]
    | field other => rfl
  | oneOf field tokens negated =>
    have each : ∀ token ∈ tokens, reading token = reading' token := same
    rw [atoms, atoms, List.map_congr_left each]
  | inList field token => rw [atoms, atoms, same token List.mem_cons_self]
  | mapEntry field key value =>
    rw [atoms, atoms, same key List.mem_cons_self,
      same value (List.mem_cons_of_mem _ List.mem_cons_self)]
  | subQuery field fragments => rw [atoms, atoms, atomsOf_congr same]
  | nullTest | connective | parenthesis => rfl

end Condition

/-! ## Builders -/

namespace Builder

/-- A token read in the builder's own table. -/
def reading (b : Builder) : Token → List Atom := readValue b.parameters.find?

/-- What the body of WHERE stands for. -/
def body (b : Builder) : List Atom := b.conditions.flatMap (Condition.atoms b.reading)

/-- What the whole statement stands for. -/
def atoms (b : Builder) : List Atom := atomsOf b.reading b.render

end Builder

/-- What a call appends to the body of WHERE. -/
def Call.atoms : Call → List Atom
  | compare field comparison value =>
    ofText (field ++ " " ++ comparison.symbol ++ " ") ++ ofValue value
  | compareField field comparison other =>
    ofText (field ++ " " ++ comparison.symbol ++ " " ++ other)
  | inValues field values negated =>
    ofText (field ++ if negated then " not in (" else " in (") ++
      (ofText ", ").intercalate (values.map ofValue) ++ ofText ")"
  | inList field values => ofText (field ++ " in ") ++ ofValue (.list values)
  | mapEquals field key value =>
    ofText (field ++ "[") ++ ofValue key ++ ofText "] = " ++ ofValue value
  | nullTest field negated =>
    ofText (" " ++ field ++ if negated then " is not null " else " is null ")
  | connective c => ofText c.text
  | parenthesis mark => ofText mark.text
  | subQuery field nested =>
    ofText (Condition.fieldText field ++ "(") ++ nested.atoms ++ ofText ")"
  | _ => []

namespace Builder

variable {b : Builder}

theorem Numbered.reading_of_mem (h : b.Numbered) {token : Token} {value : Value}
    (member : (token, value) ∈ b.parameters.entries) : b.reading token = ofValue value := by
  rw [reading, readValue, h.find?_eq_some_iff.mpr member]
  rfl

/-- A call keeps the entries and adds those issued for its requests. -/
theorem Numbered.entries_apply (h : b.Numbered) {call : Call} (kept : call.isClear = false) :
    (b.apply call).parameters.entries =
      b.parameters.entries ++ issued b.counter.next call.requests := by
  rw [apply_eq b kept]
  exact h.entries_grant call.requests

/-- The tokens a call takes are read as the values it binds. -/
theorem Numbered.reading_issued (h : b.Numbered) {call : Call} (kept : call.isClear = false) :
    ((issued b.counter.next call.requests).map Prod.fst).map (b.apply call).reading =
      call.requests.map fun request => ofValue request.2 := by
  have each : ∀ entry ∈ issued b.counter.next call.requests,
      (b.apply call).reading entry.1 = ofValue entry.2 := by
    intro entry member
    refine (h.apply call).reading_of_mem ?_
    rw [h.entries_apply kept]
    exact List.mem_append_right _ member
  calc
    _ = ((issued b.counter.next call.requests).map Prod.snd).map ofValue := by
      rw [List.map_map, List.map_map]
      exact List.map_congr_left each
    _ = _ := by
      rw [values_issued, List.map_map]
      rfl

/-- Under the new names of a merge, nested fragments are read as in the nested table. -/
theorem Numbered.atomsOf_renamed (h : b.Numbered) {nested : Builder} (inner : nested.Faithful)
    (field : Option String) :
    atomsOf (b.apply (.subQuery field nested)).reading
        (nested.render.map (Fragment.rename
          (.ofList (mergedNames b.counter.next nested.parameters.keys)))) = nested.atoms := by
  rw [atomsOf_rename, atoms]
  refine atomsOf_congr fun token member => ?_
  obtain ⟨value, fresh, found, _, _, renamed, issued⟩ :=
    inner.exists_renamed b.counter.next member
  rw [renamed, Option.getD_some,
    inner.numbered.reading_of_mem (inner.numbered.find?_eq_some_iff.mp found)]
  refine (h.apply _).reading_of_mem ?_
  rw [h.entries_apply rfl]
  exact List.mem_append_right _ issued

namespace Faithful

/-- The conditions that were there say what they said before the call. -/
theorem body_kept (h : b.Faithful) {call : Call} (kept : call.isClear = false) :
    b.conditions.flatMap (Condition.atoms (b.apply call).reading) = b.body := by
  refine List.flatMap_congr fun condition member => Condition.atoms_congr fun token used => ?_
  have key : token ∈ b.parameters.keys := by
    rw [← h.tokens]
    exact List.mem_flatMap.mpr ⟨condition, member, used⟩
  obtain ⟨⟨_, value⟩, entry, rfl⟩ := List.mem_map.mp key
  rw [h.numbered.reading_of_mem entry]
  refine (h.numbered.apply call).reading_of_mem ?_
  rw [h.numbered.entries_apply kept]
  exact List.mem_append_left _ entry

/-- The new conditions say what the call says, whatever slots it takes. -/
theorem atoms_newConditions (h : b.Faithful) {call : Call} (kept : call.isClear = false)
    (nested : ∀ field n, call = .subQuery field n → n.Faithful) :
    (call.newConditions b.counter.next).flatMap (Condition.atoms (b.apply call).reading) =
      call.atoms := by
  have read := h.numbered.reading_issued kept
  cases call with
  | compare field comparison value =>
    have here : (b.apply _).reading (.own b.counter.next) = ofValue value := (List.cons.inj read).1
    simp [Call.newConditions, Condition.atoms, Call.atoms, here]
  | inValues field values negated =>
    rw [Call.requests, issued_own] at read
    simp only [Call.newConditions, List.flatMap_singleton, Condition.atoms, Call.atoms, read]
    simp [Function.comp_def]
  | inList field values =>
    have here : (b.apply _).reading (.own b.counter.next) = ofValue (.list values) :=
      (List.cons.inj read).1
    simp [Call.newConditions, Condition.atoms, Call.atoms, here]
  | mapEquals field key value =>
    obtain ⟨first, rest⟩ := List.cons.inj read
    obtain ⟨second, _⟩ := List.cons.inj rest
    rw [Token.issue] at first second
    simp [Call.newConditions, Condition.atoms, Call.atoms, first, second]
  | subQuery field n =>
    have merged := h.numbered.atomsOf_renamed (nested field n rfl) field
    simp [Call.newConditions, Condition.atoms, Call.atoms, merged]
  | _ => simp [Call.newConditions, Condition.atoms, Call.atoms]

/-- A call appends to the body what it says by itself. -/
theorem body_apply (h : b.Faithful) {call : Call} (kept : call.isClear = false)
    (nested : ∀ field n, call = .subQuery field n → n.Faithful) :
    (b.apply call).body = b.body ++ call.atoms := by
  have conditions : (b.apply call).conditions =
      b.conditions ++ call.newConditions b.counter.next := by
    rw [apply_eq b kept]
  rw [body, conditions, List.flatMap_append, h.body_kept kept, h.atoms_newConditions kept nested]

/-! ## Positional form -/

/-- By name a statement finds what the table holds under the token. -/
theorem value?_eq (h : b.Faithful) {token : Token} (member : token ∈ b.parameters.keys) :
    b.statement.value? token = b.parameters.find? token := by
  obtain ⟨⟨_, value⟩, entry, rfl⟩ := List.mem_map.mp member
  rw [h.numbered.find?_eq_some_iff.mpr entry]
  have named : (b.namedParameters.entries.map Prod.fst).Nodup := by
    rw [h.numbered.entries_namedParameters]
    simpa [Table.keys, Function.comp_def] using h.numbered.nodup_names
  refine Table.lookup_of_mem named ?_
  show _ ∈ b.namedParameters.entries
  rw [h.numbered.entries_namedParameters]
  exact List.mem_map.mpr ⟨_, entry, rfl⟩

theorem toPositional_eq (h : b.Faithful) (max : Nat) :
    b.statement.toPositional max = layOut max b.atoms := by
  have keys : tokensOf b.statement.fragments = b.parameters.keys := h.tokensOf_render
  have bound : ∀ token ∈ tokensOf b.statement.fragments,
      ∃ v, b.statement.value? token = some v := by
    intro token member
    rw [keys] at member
    obtain ⟨⟨_, value⟩, entry, rfl⟩ := List.mem_map.mp member
    exact ⟨value, (h.value?_eq member).trans (h.numbered.find?_eq_some_iff.mpr entry)⟩
  rw [Statement.toPositional_eq (keys ▸ h.numbered.nodup_keys) bound]
  refine congrArg (layOut max) (atomsOf_congr fun token member => ?_)
  rw [keys] at member
  rw [reading, readValue, readValue, h.value?_eq member]

/-- The values of the statement are those of the table, in table order, lists expanded. -/
theorem values_atoms (h : b.Faithful) :
    Atom.values b.atoms = b.parameters.values.flatMap Value.expansion := by
  rw [atoms, reading, values_atomsOf, h.tokensOf_render, Table.keys, Table.values,
    List.flatMap_map, List.flatMap_map]
  refine List.flatMap_congr fun entry member => ?_
  rw [h.numbered.find?_eq_some_iff.mpr member]
  rfl

end Faithful

end Builder

end BoundQuery
