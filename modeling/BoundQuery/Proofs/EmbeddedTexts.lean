import BoundQuery.Json.Embedded
import BoundQuery.Proofs.JsonText

/-!
# Values without embedded texts

An object that starts with the marking key stands for a text, so it is not read back as it was
written. Every other value is: nothing in it is expanded. In a value whose objects are ordered there
is no exception, since what a text expands to never starts with the mark itself.

Results:
1. `expand_of_unmarked` / `resolved?_of_unmarked`: without a mark, a value stays as it is.
2. `not_startsMarked_of_readEmbedded`: no text is read as an object that starts with the mark.
3. `unmarked_of_resolved?`: an ordered value that resolves to an equal one has no mark.
-/

namespace BoundQuery.Json

/-- Somewhere in the value an object starts with the marking key. In an ordered value the first key
of an object is the smallest. -/
inductive Marked : Json → Prop
  | self (v : Json) (members : List (String × Json)) :
      Marked (.object ((embeddedKey, v) :: members))
  | item {items : List Json} {v : Json} : v ∈ items → Marked v → Marked (.array items)
  | member {members : List (String × Json)} {m : String × Json} : m ∈ members → Marked m.2 →
      Marked (.object members)

theorem unmarked_array {items : List Json} :
    ¬Marked (.array items) ↔ ∀ item ∈ items, ¬Marked item := by
  constructor
  · intro h item member marked
    exact h (.item member marked)
  · intro h marked
    cases marked with
    | item member marked => exact h _ member marked

theorem unmarked_object {members : List (String × Json)} : ¬Marked (.object members) ↔
    (∀ m ∈ members.head?, m.1 ≠ embeddedKey) ∧ ∀ m ∈ members, ¬Marked m.2 := by
  constructor
  · intro h
    refine ⟨?_, fun m member marked => h (.member member marked)⟩
    rintro ⟨_, v⟩ head rfl
    cases members with
    | nil => cases head
    | cons first rest =>
      cases head
      exact h (.self v rest)
  · rintro ⟨first, others⟩ marked
    cases marked with
    | self v rest => exact first _ rfl rfl
    | member member marked => exact others _ member marked

/-! ## Nothing to expand -/

variable {read : String → Option Json}

theorem expandItems_of_fixed {items : List Json}
    (fixed : ∀ item ∈ items, expand read item = some item) :
    expandItems read items = some items := by
  induction items with
  | nil => rfl
  | cons item items ih =>
    obtain ⟨first, others⟩ := List.forall_mem_cons.mp fixed
    simp [expandItems, first, ih others]

theorem expandMembers_of_fixed {members : List (String × Json)}
    (fixed : ∀ m ∈ members, expand read m.2 = some m.2) :
    expandMembers read members = some members := by
  induction members with
  | nil => rfl
  | cons head members ih =>
    obtain ⟨key, v⟩ := head
    obtain ⟨first, others⟩ := List.forall_mem_cons.mp fixed
    simp [expandMembers, first, ih others]

/-- A value without a mark is not expanded. -/
theorem expand_of_unmarked {v : Json} (unmarked : ¬Marked v) : expand read v = some v := by
  induction v using Json.induction with
  | null | bool | integer | number | string => rfl
  | array items ih =>
    rw [unmarked_array] at unmarked
    rw [expand, expandItems_of_fixed fun item member => ih item member (unmarked item member)]
    rfl
  | object members ih =>
    obtain ⟨first, others⟩ := unmarked_object.mp unmarked
    cases members with
    | nil => rfl
    | cons head members =>
      obtain ⟨key, v⟩ := head
      have plain : key ≠ embeddedKey := first _ rfl
      obtain ⟨value, rest⟩ := List.forall_mem_cons.mp fun m member => ih m member (others m member)
      simp [expand, plain, value, expandMembers_of_fixed rest]

theorem resolved?_of_unmarked {v : Json} (unmarked : ¬Marked v) :
    resolved? v = some v.canonical := by
  rw [resolved?, expand_of_unmarked unmarked]
  rfl

/-! ## What is expanded -/

/-- A marked object is replaced by what its text is read as. -/
theorem exists_of_expand_marked {v u : Json} {members : List (String × Json)}
    (h : expand read (.object ((embeddedKey, v) :: members)) = some u) :
    ∃ text, v = .string text ∧ members = [] ∧ read text = some u := by
  cases v with
  | string text =>
    cases members with
    | nil => exact ⟨text, rfl, rfl, by simpa [expand] using h⟩
    | cons => simp [expand] at h
  | _ => simp [expand] at h

/-- Any other object keeps its keys. -/
theorem exists_of_expand_plain {key : String} (plain : key ≠ embeddedKey) {v u : Json}
    {members : List (String × Json)}
    (h : expand read (.object ((key, v) :: members)) = some u) :
    ∃ v' members', expand read v = some v' ∧ expandMembers read members = some members' ∧
      u = .object ((key, v') :: members') := by
  simp only [expand, plain, if_false] at h
  split at h
  · next v' members' first others =>
    cases h
    exact ⟨v', members', first, others, rfl⟩
  · cases h

theorem exists_of_expandMembers_cons {key : String} {v : Json}
    {members members' : List (String × Json)}
    (h : expandMembers read ((key, v) :: members) = some members') :
    ∃ v' rest, expand read v = some v' ∧ expandMembers read members = some rest ∧
      members' = (key, v') :: rest := by
  simp only [expandMembers] at h
  split at h
  · next v' rest first others =>
    cases h
    exact ⟨v', rest, first, others, rfl⟩
  · cases h

theorem exists_of_expandItems_cons {item : Json} {items items' : List Json}
    (h : expandItems read (item :: items) = some items') :
    ∃ item' rest, expand read item = some item' ∧ expandItems read items = some rest ∧
      items' = item' :: rest := by
  simp only [expandItems] at h
  split at h
  · next item' rest first others =>
    cases h
    exact ⟨item', rest, first, others, rfl⟩
  · cases h

/-- The value is an object that starts with the marking key. -/
def StartsMarked (v : Json) : Prop := ∃ x members, v = .object ((embeddedKey, x) :: members)

theorem not_startsMarked_of_expand
    (texts : ∀ text u, read text = some u → ¬StartsMarked u) {v u : Json}
    (h : expand read v = some u) : ¬StartsMarked u := by
  rintro ⟨x, rest, rfl⟩
  cases v with
  | null | bool | integer | number | string => cases h
  | array items =>
    obtain ⟨_, _, same⟩ := Option.map_eq_some_iff.mp h
    cases same
  | object members =>
    cases members with
    | nil => cases h
    | cons head members =>
      obtain ⟨key, v⟩ := head
      by_cases marked : key = embeddedKey
      · subst marked
        obtain ⟨text, _, _, whole⟩ := exists_of_expand_marked h
        exact texts text _ whole ⟨x, rest, rfl⟩
      · obtain ⟨_, _, _, _, same⟩ := exists_of_expand_plain marked h
        cases same
        exact marked rfl

/-- A text is never read as an object that starts with the mark. -/
theorem not_startsMarked_of_readEmbedded {fuel : Nat} {text : String} {u : Json}
    (h : readEmbedded fuel text = some u) : ¬StartsMarked u := by
  induction fuel generalizing text u with
  | zero => cases h
  | succ fuel ih =>
    obtain ⟨v, _, expanded⟩ := Option.bind_eq_some_iff.mp h
    exact not_startsMarked_of_expand (fun _ _ => ih) expanded

/-! ## Equal values have no mark -/

theorem mem_keys_insertNew (key : String) (v : Json) (members : List (String × Json)) :
    ∃ w, (key, w) ∈ insertNew key v members := by
  induction members with
  | nil => exact ⟨v, List.mem_cons_self⟩
  | cons head members ih =>
    obtain ⟨k, x⟩ := head
    rw [insertNew]
    split
    · exact ⟨v, List.mem_cons_self⟩
    · split
      · next same => exact ⟨x, same ▸ List.mem_cons_self⟩
      · obtain ⟨w, member⟩ := ih
        exact ⟨w, List.mem_cons_of_mem _ member⟩

theorem key_of_mem_canonicalMembers {members : List (String × Json)} {m : String × Json}
    (h : m ∈ canonicalMembers members) : ∃ source ∈ members, source.1 = m.1 := by
  induction members with
  | nil => cases h
  | cons head members ih =>
    obtain ⟨key, v⟩ := head
    rcases mem_insertNew h with rfl | member
    · exact ⟨_, List.mem_cons_self, rfl⟩
    · obtain ⟨source, member, same⟩ := ih member
      exact ⟨source, List.mem_cons_of_mem _ member, same⟩

theorem key_of_expandMembers {members members' : List (String × Json)}
    (h : expandMembers read members = some members') :
    members'.map Prod.fst = members.map Prod.fst := by
  induction members generalizing members' with
  | nil =>
    cases h
    rfl
  | cons head members ih =>
    obtain ⟨key, v⟩ := head
    obtain ⟨v', rest, _, others, rfl⟩ := exists_of_expandMembers_cons h
    rw [List.map_cons, List.map_cons, ih others]

/-- What stands behind a key stays behind it. -/
theorem precedes_canonicalMembers {key : String} {members members' : List (String × Json)}
    (before : Precedes key members) (h : expandMembers read members = some members') :
    Precedes key (canonicalMembers members') := by
  intro m member
  obtain ⟨source, inside, same⟩ := key_of_mem_canonicalMembers member
  have listed : source.1 ∈ members.map Prod.fst := by
    rw [← key_of_expandMembers h]
    exact List.mem_map_of_mem inside
  obtain ⟨original, inside, key⟩ := List.mem_map.mp listed
  rw [← same, ← key]
  exact before original inside

/-- The value has no mark if it is read as an equal one. -/
def Faithful (read : String → Option Json) (v : Json) : Prop :=
  v.Ordered → ∀ u, expand read v = some u → u.canonical.same v = true → ¬Marked v

theorem faithful_items {items items' : List Json} (faithful : ∀ item ∈ items, Faithful read item)
    (ordered : OrderedItems items) (h : expandItems read items = some items')
    (equal : sameItems (canonicalItems items') items = true) : ∀ item ∈ items, ¬Marked item := by
  induction items generalizing items' with
  | nil => nofun
  | cons item items ih =>
    obtain ⟨item', rest, first, others, rfl⟩ := exists_of_expandItems_cons h
    obtain ⟨faithfulFirst, faithfulOthers⟩ := List.forall_mem_cons.mp faithful
    rw [canonicalItems, sameItems, Bool.and_eq_true] at equal
    exact List.forall_mem_cons.mpr ⟨faithfulFirst ordered.1 _ first equal.1,
      ih faithfulOthers ordered.2 others equal.2⟩

theorem faithful_members {members members' : List (String × Json)}
    (faithful : ∀ m ∈ members, Faithful read m.2) (ordered : OrderedMembers members)
    (h : expandMembers read members = some members')
    (equal : sameMembers (canonicalMembers members') members = true) :
    ∀ m ∈ members, ¬Marked m.2 := by
  induction members generalizing members' with
  | nil => nofun
  | cons head members ih =>
    obtain ⟨key, v⟩ := head
    obtain ⟨before, inner, behind⟩ := ordered
    obtain ⟨v', rest, first, others, rfl⟩ := exists_of_expandMembers_cons h
    obtain ⟨faithfulFirst, faithfulOthers⟩ := List.forall_mem_cons.mp faithful
    rw [canonicalMembers, insertNew_of_precedes (precedes_canonicalMembers before others),
      sameMembers, Bool.and_eq_true, Bool.and_eq_true] at equal
    exact List.forall_mem_cons.mpr ⟨faithfulFirst inner _ first equal.1.2,
      ih faithfulOthers behind others equal.2⟩

/-- Only an object that starts with the mark equals one that has nothing but the mark. -/
theorem startsMarked_of_same {u v : Json}
    (equal : u.canonical.same (.object [(embeddedKey, v)]) = true) : StartsMarked u := by
  cases u with
  | object members =>
    rw [canonical, same] at equal
    cases members with
    | nil => cases equal
    | cons head members =>
      obtain ⟨key, w⟩ := head
      obtain ⟨x, member⟩ := mem_keys_insertNew key w.canonical (canonicalMembers members)
      rw [canonicalMembers] at equal
      generalize insertNew key w.canonical (canonicalMembers members) = inserted at equal member
      obtain ⟨first, rest, rfl⟩ := List.exists_cons_of_ne_nil (List.ne_nil_of_mem member)
      rw [sameMembers, Bool.and_eq_true, Bool.and_eq_true, beq_iff_eq] at equal
      cases rest with
      | cons => cases equal.2
      | nil =>
        obtain rfl := List.mem_singleton.mp member
        obtain rfl : key = embeddedKey := equal.1.1
        exact ⟨w, members, rfl⟩
  | _ => cases equal

/-- An ordered value that is read as an equal one has no mark. -/
theorem faithful (texts : ∀ text u, read text = some u → ¬StartsMarked u) (v : Json) :
    Faithful read v := by
  induction v using Json.induction with
  | null | bool | integer | number | string =>
    intro _ _ _ _ marked
    cases marked
  | array items ih =>
    intro ordered u h equal
    obtain ⟨items', expanded, rfl⟩ := Option.map_eq_some_iff.mp h
    exact unmarked_array.mpr (faithful_items ih ordered expanded equal)
  | object members ih =>
    intro ordered u h equal
    cases members with
    | nil => exact unmarked_object.mpr ⟨nofun, nofun⟩
    | cons head members =>
      obtain ⟨key, v⟩ := head
      by_cases marked : key = embeddedKey
      · subst marked
        obtain ⟨text, rfl, rfl, whole⟩ := exists_of_expand_marked h
        exact absurd (startsMarked_of_same equal) (texts text u whole)
      · obtain ⟨v', members', first, others, rfl⟩ := exists_of_expand_plain marked h
        have expanded :
            expandMembers read ((key, v) :: members) = some ((key, v') :: members') := by
          simp [expandMembers, first, others]
        refine unmarked_object.mpr ⟨?_, faithful_members ih ordered expanded equal⟩
        intro m head
        cases head
        exact marked

/-- An ordered value that resolves to an equal one has no mark. -/
theorem unmarked_of_resolved? {v w : Json} (ordered : v.Ordered) (h : resolved? v = some w)
    (equal : w.same v = true) : ¬Marked v := by
  obtain ⟨u, expanded, rfl⟩ := Option.map_eq_some_iff.mp h
  exact faithful (fun _ _ => not_startsMarked_of_readEmbedded) v ordered u expanded equal

end BoundQuery.Json
