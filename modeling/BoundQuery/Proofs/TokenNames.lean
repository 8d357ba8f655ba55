import BoundQuery.Proofs.Allocation
import BoundQuery.Proofs.LastMention

/-!
# Names that keep tokens apart

A merged name stacks its marks in front and its slots behind, with nothing to say how deep it goes.
It can be read back nevertheless: no digit is an underscore, so the last slot stands behind the last
underscore, and what is left between it and the first mark is again a name.

Results:
1. `Token.name_injective`: different tokens have different names, however deep they are nested.
2. `Table.lookup_map_injective`: a lookup by names that keep keys apart is a lookup by keys.
3. `Builder.names_keep_tokens_apart`: a table under names has an entry for each token.
-/

namespace BoundQuery

namespace Token

theorem toList_name_own (slot : Nat) :
    (own slot).name.toList = '_' :: Nat.toDigits 10 slot := by
  simp [name]

theorem toList_name_merged (origin : Token) (slot : Nat) :
    (merged origin slot).name.toList =
      "sub".toList ++ (origin.name.toList ++ '_' :: Nat.toDigits 10 slot) := by
  simp [name]

theorem name_own_ne_name_merged (slot : Nat) (origin : Token) (slot' : Nat) :
    (own slot).name ≠ (merged origin slot').name := by
  intro same
  have heads := congrArg (fun s => s.toList.head?) same
  simp only [toList_name_own, toList_name_merged] at heads
  exact absurd heads (by simp)

/-- Tokens are read back from their names, from the last slot inwards. -/
theorem name_injective : Function.Injective name := by
  intro a
  induction a with
  | own slot =>
    intro b same
    cases b with
    | own slot' => exact congrArg own (slot_eq_of_name_eq same)
    | merged origin slot' => exact absurd same (name_own_ne_name_merged slot origin slot')
  | merged origin slot ih =>
    intro b same
    cases b with
    | own slot' => exact absurd same.symm (name_own_ne_name_merged slot' origin slot)
    | merged origin' slot' =>
      -- The slots are the same, so they can be taken off, and the marks in front as well.
      obtain rfl : slot = slot' := slot_eq_of_name_eq same
      have texts := congrArg String.toList same
      rw [toList_name_merged, toList_name_merged, List.append_cancel_left_eq,
        List.append_cancel_right_eq] at texts
      rw [ih (String.toList_inj.mp texts)]

end Token

/-! ## Tables under other keys -/

theorem Table.lookup_map_injective {κ μ ν : Type} [DecidableEq κ] [DecidableEq μ] {f : κ → μ}
    (apart : Function.Injective f) (key : κ) (entries : List (κ × ν)) :
    lookup (f key) (entries.map fun entry => (f entry.1, entry.2)) = lookup key entries := by
  induction entries with
  | nil => rfl
  | cons entry rest ih =>
    rw [List.map_cons, lookup, lookup, ih]
    by_cases same : entry.1 = key
    · rw [if_pos same, if_pos (congrArg f same)]
    · rw [if_neg same, if_neg (apart.ne same)]

namespace Builder

/-- Distinct keys have distinct names, so no entry is lost or moved when names take their place. -/
theorem entries_namedParameters_of_nodup {b : Builder} (distinct : b.parameters.keys.Nodup) :
    b.namedParameters.entries =
      b.parameters.entries.map fun entry => (entry.1.name, entry.2) := by
  refine Table.entries_ofList ?_
  have names : (b.parameters.keys.map Token.name).Nodup := distinct.map Token.name_injective
  simpa [Table.keys, Function.comp_def] using names

/-- A name stands for one token only, of any depth and with any slots. So whatever was inserted into
a parameter table, it has the same entries under names in the same places, and it answers a name as
it answers the token. -/
theorem names_keep_tokens_apart :
    (∀ a b : Token, a.name = b.name ↔ a = b) ∧
      ∀ (b : Builder) (inserted : List (Token × Value)),
        let filled : Builder := { b with parameters := .ofList inserted }
        filled.namedParameters.entries =
            filled.parameters.entries.map (fun entry => (entry.1.name, entry.2)) ∧
          filled.namedParameters.size = filled.parameters.size ∧
          ∀ token, filled.namedParameters.find? token.name = filled.parameters.find? token := by
  refine ⟨fun a b => Token.name_injective.eq_iff, fun b inserted => ?_⟩
  intro filled
  have entries := entries_namedParameters_of_nodup (b := filled) (Table.nodup_keys_ofList inserted)
  refine ⟨entries, ?_, fun token => ?_⟩
  · rw [Table.size, entries, List.length_map, Table.size]
  · rw [Table.find?, entries, Table.lookup_map_injective Token.name_injective, Table.find?]

end Builder

end BoundQuery
