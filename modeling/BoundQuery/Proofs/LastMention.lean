import BoundQuery.Proofs.Calls
import BoundQuery.Proofs.ClauseGrammar
import Mathlib.Data.List.Basic

/-!
# First places and last values

Sources and sort fields are mentioned one by one, some of them more than once. The builder lists
each name where it was mentioned first and with what was said about it last, whatever other calls
come between. A blank name is no mention, and `clear` forgets all of them.

Results:
1. `Table.find?_insertAll` / `Table.keys_ofList`: the last value under a key, and the order of keys.
2. `Table.entries_ofList_eq`: a table of mentions, as one list that is computed from them.
3. `Builder.insertAll_run`: a run inserts what its calls mention.
4. `Builder.lists_mentions`: sources and sort fields of every run, and the clauses that list them.
-/

namespace BoundQuery

/-! ## Mentions -/

section Mentions

variable {κ ν : Type} [DecidableEq κ]

/-- What was said about a key last. -/
def lastValue? (key : κ) (mentions : List (κ × ν)) : Option ν :=
  (mentions.reverse.find? fun mention => mention.1 = key).map Prod.snd

/-- Each key in order of first mention, with what was said about it last. -/
def lastMentions (mentions : List (κ × ν)) : List (κ × ν) :=
  (mentions.map Prod.fst).eraseDups.filterMap fun key =>
    (lastValue? key mentions).map fun value => (key, value)

theorem lastValue?_cons (key : κ) (mention : κ × ν) (rest : List (κ × ν)) :
    lastValue? key (mention :: rest) =
      (lastValue? key rest).or (if mention.1 = key then some mention.2 else none) := by
  rw [lastValue?, lastValue?, List.reverse_cons, List.find?_append, Option.map_or]
  congr 1
  by_cases same : mention.1 = key <;> simp [same]

namespace Table

/-- The last of the inserted values is found, and else what was there before. -/
theorem find?_insertAll (table : Table κ ν) (mentions : List (κ × ν)) (key : κ) :
    (table.insertAll mentions).find? key = (lastValue? key mentions).or (table.find? key) := by
  induction mentions generalizing table with
  | nil => rfl
  | cons mention rest ih =>
    rw [insertAll_cons, ih, find?_insert, lastValue?_cons, Option.or_assoc]
    split <;> rfl

/-- Keys in order of first mention are the distinct keys. -/
theorem foldl_addKey (keys : List κ) : keys.foldl addKey [] = keys.eraseDups := by
  induction keys using List.reverseRecOn with
  | nil => rfl
  | append_singleton front key ih =>
    rw [List.foldl_append, ih, List.foldl_cons, List.foldl_nil, addKey, List.eraseDups_append]
    by_cases known : key ∈ front <;> simp [known, List.removeAll, List.eraseDups_cons]

theorem keys_ofList (mentions : List (κ × ν)) :
    (ofList mentions).keys = (mentions.map Prod.fst).eraseDups := by
  rw [ofList_eq_insertAll, keys_insertAll]
  exact foldl_addKey _

theorem nodup_keys_insertAll {table : Table κ ν} (distinct : table.keys.Nodup)
    (mentions : List (κ × ν)) : (table.insertAll mentions).keys.Nodup := by
  induction mentions generalizing table with
  | nil => exact distinct
  | cons mention rest ih => exact ih (nodup_keys_insert table mention.1 mention.2 distinct)

/-- Under distinct keys a table is told by its keys and what it answers for them. -/
theorem entries_eq {table : Table κ ν} (distinct : table.keys.Nodup) :
    table.entries =
      table.keys.filterMap fun key => (table.find? key).map fun value => (key, value) := by
  have each : ∀ entry ∈ table.entries,
      ((table.find? entry.1).map fun value => (entry.1, value)) = some entry := by
    intro entry member
    rw [find?, lookup_of_mem distinct member]
    rfl
  rw [keys, List.filterMap_map]
  exact (List.filterMap_some.symm.trans (List.filterMap_congr each).symm)

theorem nodup_keys_ofList (mentions : List (κ × ν)) : (ofList mentions).keys.Nodup := by
  have none : (empty : Table κ ν).keys.Nodup := List.nodup_nil
  rw [ofList_eq_insertAll]
  exact nodup_keys_insertAll none mentions

theorem entries_ofList_eq (mentions : List (κ × ν)) :
    (ofList mentions).entries = lastMentions mentions := by
  have found (key : κ) : (ofList mentions).find? key = lastValue? key mentions := by
    rw [ofList_eq_insertAll, find?_insertAll]
    exact Option.or_none
  simp only [entries_eq (nodup_keys_ofList mentions), keys_ofList, found]
  rfl

end Table

end Mentions

/-! ## Mentions in calls -/

namespace Call

/-- The source a call is about; a name of which nothing is left without its blanks is none. -/
def source? : Call → Option (String × Option String)
  | registerSource name aliasName =>
    if Text.trimmed name = [] then none else some (name, aliasName)
  | _ => none

/-- The sort field a call is about. -/
def sortField? : Call → Option (String × Direction)
  | orderBy field direction => some (field, direction)
  | _ => none

end Call

namespace Builder

/-- If each call inserts what it mentions, a run inserts what its calls mention. -/
theorem insertAll_run {κ ν : Type} [DecidableEq κ] (table : Builder → Table κ ν)
    {mention? : Call → Option (κ × ν)}
    (step : ∀ (b : Builder) (call : Call), call.isClear = false →
      table (b.apply call) = (table b).insertAll (mention? call).toList)
    (b : Builder) {calls : List Call} (kept : ∀ call ∈ calls, call.isClear = false) :
    table (b.run calls) = (table b).insertAll (calls.filterMap mention?) := by
  induction calls generalizing b with
  | nil => rfl
  | cons call rest ih =>
    have later := ih (b.apply call) fun call member => kept call (List.mem_cons_of_mem _ member)
    rw [run_cons, later, step b call (kept call List.mem_cons_self), ← Table.insertAll_append]
    cases mention : mention? call <;> simp [mention]

theorem sources_apply (b : Builder) (call : Call) (kept : call.isClear = false) :
    (b.apply call).sources.entries = b.sources.entries.insertAll call.source?.toList := by
  rw [apply_eq b kept]
  cases call with
  | registerSource name aliasName =>
    by_cases blank : Text.allBlank name = true
    · simp [arrange, registerSource, Call.source?, Text.trimmed_eq_nil_iff, blank]
    · simp [arrange, registerSource, Call.source?, Text.trimmed_eq_nil_iff, blank,
        Table.insertAll_cons, Sources.register]
  | clear => cases kept
  | _ => rfl

theorem ordering_apply (b : Builder) (call : Call) (kept : call.isClear = false) :
    (b.apply call).ordering.entries = b.ordering.entries.insertAll call.sortField?.toList := by
  rw [apply_eq b kept]
  cases call with
  | registerSource name aliasName =>
    simp only [arrange, registerSource]
    split <;> rfl
  | clear => cases kept
  | _ => rfl

/-- What a run inserted is what was mentioned behind its last `clear`. -/
theorem sources_run (calls : List Call) :
    (run {} calls).sources.entries = .ofList ((Call.sinceClear calls).filterMap Call.source?) := by
  rw [run_sinceClear]
  exact insertAll_run (·.sources.entries) sources_apply {} fun _ => Call.isClear_of_mem_sinceClear

theorem ordering_run (calls : List Call) :
    (run {} calls).ordering.entries =
      .ofList ((Call.sinceClear calls).filterMap Call.sortField?) := by
  rw [run_sinceClear]
  exact insertAll_run (·.ordering.entries) ordering_apply {} fun _ => Call.isClear_of_mem_sinceClear

/-- Whatever a run calls between: sources and sort fields stand in order of first mention, no name
twice, each with what was said about it last, and that is what the clauses list. -/
theorem lists_mentions (calls : List Call) :
    let sources := (Call.sinceClear calls).filterMap Call.source?
    let fields := (Call.sinceClear calls).filterMap Call.sortField?
    let b := run {} calls
    (b.sources.entries.entries = lastMentions sources ∧
      b.sources.entries.keys = (sources.map Prod.fst).eraseDups ∧ b.sources.entries.keys.Nodup ∧
      (∀ name label, b.sources.aliasOf? name = some label ↔
        (name, some label) ∈ lastMentions sources) ∧
      ∀ text, Grammar.Listed Grammar.SourceItem "FROM " ", " (lastMentions sources) text ↔
        text = b.sources.clause ∧ b.sources.clause ≠ "") ∧
    b.ordering.entries.entries = lastMentions fields ∧
      b.ordering.entries.keys = (fields.map Prod.fst).eraseDups ∧ b.ordering.entries.keys.Nodup ∧
      ∀ text, Grammar.Listed Grammar.OrderItem "ORDER BY " ", " (lastMentions fields) text ↔
        text = b.ordering.clause ∧ b.ordering.clause ≠ "" := by
  intro sources fields b
  have sourceEntries : b.sources.entries = .ofList sources := sources_run calls
  have fieldEntries : b.ordering.entries = .ofList fields := ordering_run calls
  rw [sourceEntries, fieldEntries, Table.keys_ofList, Table.keys_ofList]
  have sourceKeys := Table.nodup_keys_ofList sources
  have fieldKeys := Table.nodup_keys_ofList fields
  rw [Table.keys_ofList] at sourceKeys fieldKeys
  rw [← Table.entries_ofList_eq, ← Table.entries_ofList_eq]
  refine ⟨⟨rfl, rfl, sourceKeys, fun name label => ?_, ?_⟩, rfl, rfl, fieldKeys, ?_⟩
  · rw [Sources.aliasOf?, sourceEntries, Option.join_eq_some_iff]
    exact Table.lookup_eq_some_iff (Table.nodup_keys_ofList sources)
  · rw [← sourceEntries]
    exact Grammar.sources_iff b.sources
  · rw [← fieldEntries]
    exact Grammar.ordering_iff b.ordering

-- The name that is registered again stays first and loses its alias.
example : (Builder.run {} [.registerSource "Order" (some "o"), .registerSource "User" (some "u"),
    .registerSource "\u2003" none, .having "", .registerSource "Order" none]).sources.clause =
    "FROM Order, User as u" := by decide

end Builder

end BoundQuery
