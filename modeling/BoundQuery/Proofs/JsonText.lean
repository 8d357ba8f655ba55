import BoundQuery.Proofs.NumberText

/-!
# Reading JSON text back

The compact text of a value is read back as the same value if containers are nested no deeper than
the reader goes, and is refused otherwise, as long as all numbers in it are read back from texts of
their own. Members come back in the order they were written in, keys given twice included, as
nothing is sorted on the way.

Results:
1. `stringTail_escape`: strings with all their escapes.
2. `enclosed_intercalate`: items between commas, for items and members alike.
3. `readsBack` / `ofSource?_text`: values of any depth.
-/

namespace BoundQuery.Json

/-! ## Values by their items and members -/

/-- What holds of the scalars, and of a container if of all values in it, holds of every value. -/
theorem induction {P : Json → Prop} (null : P null) (bool : ∀ b, P (bool b))
    (integer : ∀ i, P (integer i)) (number : ∀ x, P (number x)) (string : ∀ s, P (string s))
    (array : ∀ items, (∀ item ∈ items, P item) → P (array items))
    (object : ∀ members, (∀ member ∈ members, P member.2) → P (object members)) (v : Json) : P v :=
  @Json.rec P (fun items => ∀ item ∈ items, P item) (fun members => ∀ member ∈ members, P member.2)
    (fun member => P member.2) null bool integer number string array object nofun
    (fun _ _ head tail => List.forall_mem_cons.mpr ⟨head, tail⟩) nofun
    (fun _ _ head tail => List.forall_mem_cons.mpr ⟨head, tail⟩) (fun _ _ value => value) v

/-! ## Strings -/

theorem unit?_four (a b c d : Char) (rest : List Char) :
    unit? (a :: b :: c :: d :: rest) = (Text.hexNat? [a, b, c, d]).map fun n => (n, rest) := rfl

/-- A control character is its own UTF-16 unit. -/
theorem unitEscape?_control {c : Char} (control : c.toNat < 32) (rest : List Char) :
    unitEscape? ('0' :: '0' :: Text.hexChar (Fin.ofNat 16 (c.toNat / 16)) ::
      Text.hexChar (Fin.ofNat 16 c.toNat) :: rest) = some (c, rest) := by
  have zero : Text.hexValue? '0' = some 0 := Text.hexValue?_hexChar 0
  have value : c.toNat / 16 % 16 * 16 + c.toNat % 16 = c.toNat := by omega
  have code : Text.hexNat? ['0', '0', Text.hexChar (Fin.ofNat 16 (c.toNat / 16)),
      Text.hexChar (Fin.ofNat 16 c.toNat)] = some c.toNat := by
    simp [Text.hexNat?, zero, Text.hexValue?_hexChar, value]
  have read : unit? ('0' :: '0' :: Text.hexChar (Fin.ofNat 16 (c.toNat / 16)) ::
      Text.hexChar (Fin.ofNat 16 c.toNat) :: rest) = some (c.toNat, rest) := by
    rw [unit?_four, code]
    rfl
  rw [unitEscape?, read]
  simp only [Option.bind_eq_bind, Option.bind_some]
  rw [if_neg (by omega), if_neg (by omega), Char.ofNat_toNat]

/-- A character is written behind a backslash, by its code, or as it is. -/
theorem escape_cases (c : Char) :
    (∃ mark, escape c = ['\\', mark] ∧ plainEscape? mark = some c) ∨
      (c.toNat < 32 ∧ escape c = ['\\', 'u', '0', '0', Text.hexChar (Fin.ofNat 16 (c.toNat / 16)),
        Text.hexChar (Fin.ofNat 16 c.toNat)]) ∨
      (escape c = [c] ∧ c ≠ '"' ∧ c ≠ '\\' ∧ 32 ≤ c.toNat) := by
  have short {mark : Char} (read : plainEscape? mark = some c) :
      ∃ m, ['\\', mark] = ['\\', m] ∧ plainEscape? m = some c := ⟨mark, rfl, read⟩
  unfold escape
  split; · next same => exact .inl (short (by rw [same]; rfl))
  split; · next same => exact .inl (short (by rw [same]; rfl))
  split; · next same => exact .inl (short (by rw [same]; rfl))
  split; · next same => exact .inl (short (by rw [same]; rfl))
  split; · next same => exact .inl (short (by rw [same]; rfl))
  split; · next same => exact .inl (short (by rw [same]; rfl))
  split; · next same => exact .inl (short (by rw [same]; rfl))
  split
  · next control => exact .inr (.inl ⟨control, rfl⟩)
  · next noQuote noBackslash _ _ _ _ _ large =>
    exact .inr (.inr ⟨rfl, noQuote, noBackslash, Nat.not_lt.mp large⟩)

theorem stringChar?_plain {c : Char} (noBackslash : c ≠ '\\') (large : 32 ≤ c.toNat)
    (rest : List Char) : stringChar? (c :: rest) = some (c, rest) := by
  unfold stringChar?
  split
  · next same => cases same
  · next same => exact absurd (List.head_eq_of_cons_eq same) noBackslash
  · next same => exact absurd (List.head_eq_of_cons_eq same) noBackslash
  · next same =>
    cases same
    exact if_neg (not_or.mpr ⟨Nat.not_lt.mpr large, noBackslash⟩)

/-- Each character is read back from the way it is written. -/
theorem stringChar?_escape (c : Char) (rest : List Char) :
    stringChar? (escape c ++ rest) = some (c, rest) := by
  rcases escape_cases c with ⟨mark, written, read⟩ | ⟨control, written⟩ |
    ⟨written, _, noBackslash, large⟩
  · have other : mark ≠ 'u' := by
      rintro rfl
      cases read
    rw [written]
    simp [stringChar?, read]
  · rw [written]
    exact unitEscape?_control control rest
  · rw [written]
    exact stringChar?_plain noBackslash large rest

/-- What a character is written as starts with anything but a quote. -/
theorem head_escape (c : Char) : ∃ first tail, escape c = first :: tail ∧ first ≠ '"' := by
  rcases escape_cases c with ⟨mark, written, _⟩ | ⟨_, written⟩ | ⟨written, noQuote, _⟩
  · exact ⟨_, _, written, by decide⟩
  · exact ⟨_, _, written, by decide⟩
  · exact ⟨_, _, written, noQuote⟩

theorem length_le_flatMap_escape (cs : List Char) : cs.length ≤ (cs.flatMap escape).length := by
  induction cs with
  | nil => simp
  | cons c cs ih =>
    obtain ⟨first, tail, shape, _⟩ := head_escape c
    rw [List.flatMap_cons, List.length_append, shape]
    simp only [List.length_cons]
    omega

theorem stringBody_escape {cs : List Char} {fuel : Nat} (enough : cs.length < fuel)
    (rest : List Char) : stringBody fuel (cs.flatMap escape ++ '"' :: rest) = some (cs, rest) := by
  induction cs generalizing fuel with
  | nil =>
    obtain ⟨more, rfl⟩ : ∃ more, fuel = more + 1 := ⟨fuel - 1, by omega⟩
    rfl
  | cons c cs ih =>
    obtain ⟨more, rfl⟩ : ∃ more, fuel = more + 1 := ⟨fuel - 1, by omega⟩
    have fewer : cs.length < more := by simpa using enough
    have others := ih fewer
    have char := stringChar?_escape c (cs.flatMap escape ++ '"' :: rest)
    obtain ⟨first, tail, shape, noQuote⟩ := head_escape c
    rw [List.flatMap_cons, List.append_assoc]
    rw [shape, List.cons_append] at char ⊢
    rw [stringBody]
    · simp only [char, others, Option.bind_eq_bind, Option.bind_some]
    · intro s same
      exact noQuote (List.head_eq_of_cons_eq same)

/-- A string is read back behind its opening quote. -/
theorem stringTail_escape (s : String) (rest : List Char) :
    stringTail (s.toList.flatMap escape ++ '"' :: rest) = some (s, rest) := by
  have enough := length_le_flatMap_escape s.toList
  rw [stringTail, stringBody_escape (by simp only [List.length_append, List.length_cons]; omega)]
  simp

/-! ## Scalars -/

theorem scalar_of_bracket {c : Char} (bracket : c = '[' ∨ c = '\x7b') (rest : List Char) :
    scalar (c :: rest) = none := by
  have none_of {c : Char} (noDigit : c.isDigit = false) : magnitude false (c :: rest) = none := by
    cases read : magnitude false (c :: rest) with
    | none => rfl
    | some read =>
      obtain ⟨_, _, same, digit⟩ := isDigit_head_of_magnitude ‹_›
      cases same
      cases noDigit.symm.trans digit
  rcases bracket with rfl | rfl
  · exact none_of rfl
  · exact none_of rfl

theorem value_of_scalar {s : List Char} {read : Json × List Char} (h : scalar s = some read)
    (depth : Nat) : value depth s = some read := by
  cases depth with
  | zero => exact h
  | succ depth =>
    unfold value
    split
    · cases (scalar_of_bracket (.inl rfl) _).symm.trans h
    · cases (scalar_of_bracket (.inr rfl) _).symm.trans h
    · exact h

/-- The text starts neither with a blank nor with the closing mark. -/
def Starts (close : Char) (s : List Char) : Prop :=
  ∃ c tail, s = c :: tail ∧ isBlank c = false ∧ c ≠ close

theorem Starts.append {close : Char} {s : List Char} (h : Starts close s) (rest : List Char) :
    Starts close (s ++ rest) := by
  obtain ⟨c, tail, rfl, mark⟩ := h
  exact ⟨c, tail ++ rest, rfl, mark⟩

theorem skipBlanks_cons {c : Char} (noBlank : isBlank c = false) (rest : List Char) :
    skipBlanks (c :: rest) = c :: rest := by
  simp [skipBlanks, noBlank]

theorem Starts.skipBlanks_eq {close : Char} {s : List Char} (h : Starts close s) :
    skipBlanks s = s := by
  obtain ⟨c, tail, rfl, noBlank, _⟩ := h
  exact skipBlanks_cons noBlank tail

theorem starts_of_scalar {s : List Char} {read : Json × List Char} (h : scalar s = some read) :
    Starts ']' s := by
  unfold scalar at h
  split at h
  · exact ⟨_, _, rfl, by decide, by decide⟩
  · exact ⟨_, _, rfl, by decide, by decide⟩
  · exact ⟨_, _, rfl, by decide, by decide⟩
  · exact ⟨_, _, rfl, by decide, by decide⟩
  · exact ⟨_, _, rfl, by decide, by decide⟩
  · obtain ⟨c, tail, rfl, digit⟩ := isDigit_head_of_magnitude h
    refine ⟨c, tail, rfl, isBlank_of_isDigit digit, ?_⟩
    rintro rfl
    cases digit

theorem scalar_quoted (s : String) (rest : List Char) :
    scalar (quoted s ++ rest) = some (string s, rest) := by
  show (stringTail (s.toList.flatMap escape ++ ['"'] ++ rest)).map _ = _
  rw [List.append_assoc, List.singleton_append, stringTail_escape]
  rfl

/-! ## Items between commas -/

theorem writeItems_eq (items : List Json) :
    writeItems items = [','].intercalate (items.map write) := by
  induction items with
  | nil => rfl
  | cons item items ih =>
    cases items with
    | nil => simp [writeItems]
    | cons next items => simp [writeItems, ih]

/-- A key and its value. -/
def writeMember (member : String × Json) : List Char :=
  quoted member.1 ++ ':' :: write member.2

theorem writeMembers_eq (members : List (String × Json)) :
    writeMembers members = [','].intercalate (members.map writeMember) := by
  induction members with
  | nil => rfl
  | cons head members ih =>
    cases members with
    | nil => simp [writeMembers, writeMember]
    | cons next members => simp [writeMembers, ih, writeMember]

/-- A mark that may stand behind the items of a container. -/
structure IsCloser (close : Char) : Prop where
  noComma : close ≠ ','
  noBlank : isBlank close = false
  ends : ∀ rest, AfterNumber (close :: rest)

theorem isCloser_bracket : IsCloser ']' := ⟨by decide, by decide, fun _ => ⟨by simp, rfl⟩⟩

theorem isCloser_brace : IsCloser '\x7d' := ⟨by decide, by decide, fun _ => ⟨by simp, rfl⟩⟩

section Enclosed

variable {α : Type} {item : List Char → Option (α × List Char)} {write : α → List Char}
  {fits : α → Bool} {close : Char}

theorem length_le_intercalate {xs : List α} (starts : ∀ x ∈ xs, Starts close (write x)) :
    xs.length ≤ ([','].intercalate (xs.map write)).length := by
  induction xs with
  | nil => simp
  | cons x xs ih =>
    obtain ⟨⟨c, tail, shape, _⟩, others⟩ := List.forall_mem_cons.mp starts
    cases xs with
    | nil => simp [shape]
    | cons next xs =>
      have rest := ih others
      simp only [List.map_cons, List.intercalate_cons_cons, List.length_append, List.length_cons,
        shape] at rest ⊢
      omega

variable {s tail rest : List Char} {x : α} {p : Prop} [Decidable p]

theorem commaSeparated_last (closer : IsCloser close) (first : Starts close s)
    (read : item (s ++ close :: rest) = if p then some (x, close :: rest) else none) (fuel : Nat) :
    commaSeparated item close (fuel + 1) (s ++ close :: rest) =
      if p then some ([x], rest) else none := by
  rw [commaSeparated, (first.append _).skipBlanks_eq, read]
  split
  · simp [skipBlanks_cons closer.noBlank]
  · rfl

theorem commaSeparated_more (closer : IsCloser close) (first : Starts close s)
    (read : item (s ++ ',' :: tail) = if p then some (x, ',' :: tail) else none) (fuel : Nat) :
    commaSeparated item close (fuel + 1) (s ++ ',' :: tail) =
      if p then (commaSeparated item close fuel tail).map fun (xs, rest) => (x :: xs, rest)
      else none := by
  have comma : skipBlanks (',' :: tail) = ',' :: tail := skipBlanks_cons rfl tail
  rw [commaSeparated, (first.append _).skipBlanks_eq, read]
  split
  · simp only [Option.bind_eq_bind, Option.bind_some, comma, closer.noComma.symm, if_false, if_true]
    cases commaSeparated item close fuel tail <;> rfl
  · rfl

/-- Items that are read one by one are read between commas, if each of them fits. -/
theorem commaSeparated_intercalate (closer : IsCloser close) {xs : List α} (filled : xs ≠ [])
    (starts : ∀ x ∈ xs, Starts close (write x))
    (reads : ∀ x ∈ xs, ∀ rest, AfterNumber rest →
      item (write x ++ rest) = if fits x then some (x, rest) else none)
    {fuel : Nat} (enough : xs.length ≤ fuel) (rest : List Char) :
    commaSeparated item close fuel ([','].intercalate (xs.map write) ++ close :: rest) =
      if xs.all fits then some (xs, rest) else none := by
  induction xs generalizing fuel with
  | nil => exact absurd rfl filled
  | cons x xs ih =>
    have positive : 0 < fuel := Nat.lt_of_lt_of_le (Nat.succ_pos xs.length) enough
    obtain ⟨more, rfl⟩ : ∃ more, fuel = more + 1 := ⟨fuel - 1, by omega⟩
    obtain ⟨first, others⟩ := List.forall_mem_cons.mp starts
    obtain ⟨readFirst, readOthers⟩ := List.forall_mem_cons.mp reads
    cases xs with
    | nil =>
      rw [List.map_singleton, List.intercalate_singleton,
        commaSeparated_last closer first (readFirst _ (closer.ends rest))]
      simp
    | cons next xs =>
      have fewer : (next :: xs).length ≤ more := by simpa using enough
      have behind := ih (by simp) others readOthers fewer
      have all : (x :: next :: xs).all fits = (fits x && (next :: xs).all fits) := rfl
      rw [List.map_cons, List.map_cons, List.intercalate_cons_cons, ← List.map_cons,
        List.append_assoc, List.append_assoc, List.singleton_append,
        commaSeparated_more closer first (readFirst _ ⟨by simp, rfl⟩), behind, all]
      cases fits x with
      | false => rfl
      | true => cases (next :: xs).all fits <;> rfl

theorem starts_intercalate {xs : List α} (filled : xs ≠ [])
    (starts : ∀ x ∈ xs, Starts close (write x)) :
    Starts close ([','].intercalate (xs.map write)) := by
  obtain ⟨x, xs, rfl⟩ := List.exists_cons_of_ne_nil filled
  have first := (List.forall_mem_cons.mp starts).1
  cases xs with
  | nil => simpa using first
  | cons next xs =>
    rw [List.map_cons, List.map_cons, List.intercalate_cons_cons, List.append_assoc]
    exact first.append _

/-- What stands between the marks of a container is read back. -/
theorem enclosed_intercalate (closer : IsCloser close) (fits : α → Bool) {xs : List α}
    (starts : ∀ x ∈ xs, Starts close (write x))
    (reads : ∀ x ∈ xs, ∀ rest, AfterNumber rest →
      item (write x ++ rest) = if fits x then some (x, rest) else none) (rest : List Char) :
    enclosed item close ([','].intercalate (xs.map write) ++ close :: rest) =
      if xs.all fits then some (xs, rest) else none := by
  by_cases filled : xs = []
  · subst filled
    have stop : skipBlanks (close :: rest) = close :: rest :=
      skipBlanks_cons closer.noBlank rest
    simp [enclosed, stop]
  · have long := length_le_intercalate starts
    obtain ⟨c, tail, shape, blank, other⟩ := starts_intercalate filled starts
    have enough : xs.length ≤ (c :: (tail ++ close :: rest)).length := by
      rw [shape] at long
      simp only [List.length_cons, List.length_append] at long ⊢
      omega
    rw [← commaSeparated_intercalate closer filled starts reads enough rest, shape]
    simp only [enclosed, List.cons_append, skipBlanks_cons blank, if_neg other]

end Enclosed

/-! ## Values -/

mutual
/-- How deep the containers of a value are nested. -/
def depth : Json → Nat
  | array items => depthItems items + 1
  | object members => depthMembers members + 1
  | _ => 0

def depthItems : List Json → Nat
  | [] => 0
  | item :: items => max (depth item) (depthItems items)

def depthMembers : List (String × Json) → Nat
  | [] => 0
  | (_, value) :: members => max (depth value) (depthMembers members)
end

theorem depthItems_le {items : List Json} {n : Nat} :
    depthItems items ≤ n ↔ ∀ item ∈ items, item.depth ≤ n := by
  induction items with
  | nil => simp [depthItems]
  | cons item items ih => rw [depthItems, Nat.max_le, ih, List.forall_mem_cons]

theorem depthMembers_le {members : List (String × Json)} {n : Nat} :
    depthMembers members ≤ n ↔ ∀ member ∈ members, member.2.depth ≤ n := by
  induction members with
  | nil => simp [depthMembers]
  | cons head members ih =>
    obtain ⟨key, value⟩ := head
    rw [depthMembers, Nat.max_le, ih, List.forall_mem_cons]

/-- In front of what may follow it, the text is read as the value, or not at all if the value is
nested deeper than the reader goes. -/
def ReadsBack (v : Json) : Prop :=
  ∀ n rest, AfterNumber rest →
    value n (write v ++ rest) = if v.depth ≤ n then some (v, rest) else none

theorem readsBack_of_scalar {v : Json} (flat : v.depth = 0)
    (read : ∀ rest, AfterNumber rest → scalar (write v ++ rest) = some (v, rest)) :
    ReadsBack v := by
  intro n rest after
  rw [value_of_scalar (read rest after), flat, if_pos (Nat.zero_le n)]

theorem scalar_boolean (b : Bool) (rest : List Char) :
    scalar (write (.bool b) ++ rest) = some (.bool b, rest) := by
  cases b <;> rfl

/-- The text of a value starts with no blank and no closing bracket. -/
theorem starts_write (v : Json) : Starts ']' (write v) := by
  have of_scalar {w : Json} (read : scalar (write w ++ []) = some (w, [])) :
      Starts ']' (write w) := by
    rw [List.append_nil] at read
    exact starts_of_scalar read
  cases v with
  | null => exact of_scalar rfl
  | bool b => exact of_scalar (scalar_boolean b [])
  | integer i =>
    rw [write]
    exact of_scalar (w := .integer i) (scalar_integer i afterNumber_nil)
  | number x => exact isBlank_head_json x
  | string s => exact of_scalar (w := .string s) (scalar_quoted s [])
  | array items => exact ⟨'[', _, rfl, by decide, by decide⟩
  | object members => exact ⟨'\x7b', _, rfl, by decide, by decide⟩

theorem starts_writeMember (m : String × Json) : Starts '\x7d' (writeMember m) :=
  ⟨'"', _, rfl, by decide, by decide⟩

theorem member_writeMember {m : String × Json} (reads : ReadsBack m.2) (n : Nat)
    {rest : List Char} (after : AfterNumber rest) : member (value n) (writeMember m ++ rest) =
      if m.2.depth ≤ n then some (m, rest) else none := by
  have key := stringTail_escape m.1 (':' :: (write m.2 ++ rest))
  have colon : skipBlanks (':' :: (write m.2 ++ rest)) = ':' :: (write m.2 ++ rest) :=
    skipBlanks_cons rfl _
  have first := ((starts_write m.2).append rest).skipBlanks_eq
  have layout : writeMember m ++ rest =
      '"' :: (m.1.toList.flatMap escape ++ '"' :: ':' :: (write m.2 ++ rest)) := by
    simp [writeMember, quoted]
  rw [layout]
  simp only [member, key, Option.bind_eq_bind, Option.bind_some, colon, first,
    reads n rest after]
  split <;> rfl

theorem readsBack_array {items : List Json} (reads : ∀ item ∈ items, ReadsBack item) :
    ReadsBack (.array items) := by
  intro n rest after
  rw [write, depth, List.cons_append, List.append_assoc, List.singleton_append, writeItems_eq]
  cases n with
  | zero =>
    rw [if_neg (Nat.not_succ_le_zero _)]
    exact scalar_of_bracket (.inl rfl) _
  | succ n =>
    have inside := enclosed_intercalate isCloser_bracket (fun item => decide (item.depth ≤ n))
      (fun item _ => starts_write item)
      (fun item member rest after => by simpa using reads item member n rest after) rest
    have deep : (items.all fun item => decide (item.depth ≤ n)) = true ↔
        depthItems items + 1 ≤ n + 1 := by
      rw [Nat.add_le_add_iff_right, depthItems_le]
      simp
    show (enclosed (value n) ']' _).map _ = _
    rw [inside]
    simp only [deep]
    split <;> rfl

theorem readsBack_object {members : List (String × Json)}
    (reads : ∀ m ∈ members, ReadsBack m.2) : ReadsBack (.object members) := by
  intro n rest after
  rw [write, depth, List.cons_append, List.append_assoc, List.singleton_append, writeMembers_eq]
  cases n with
  | zero =>
    rw [if_neg (Nat.not_succ_le_zero _)]
    exact scalar_of_bracket (.inr rfl) _
  | succ n =>
    have inside := enclosed_intercalate isCloser_brace
      (fun m : String × Json => decide (m.2.depth ≤ n)) (fun m _ => starts_writeMember m)
      (fun m member rest after => by simpa using member_writeMember (reads m member) n after) rest
    have deep : (members.all fun m => decide (m.2.depth ≤ n)) = true ↔
        depthMembers members + 1 ≤ n + 1 := by
      rw [Nat.add_le_add_iff_right, depthMembers_le]
      simp
    show (enclosed (member (value n)) '\x7d' _).map _ = _
    rw [inside]
    simp only [deep]
    split <;> rfl

/-- The number is one of those in the value. -/
inductive HasNumber (x : Finite64) : Json → Prop
  | self : HasNumber x (.number x)
  | item {items : List Json} {v : Json} : v ∈ items → HasNumber x v → HasNumber x (.array items)
  | member {members : List (String × Json)} {m : String × Json} : m ∈ members →
      HasNumber x m.2 → HasNumber x (.object members)

/-- Each number in the value is read back from its own text. -/
def NumbersReadBack (v : Json) : Prop := ∀ x, HasNumber x v → x.ReadsBack

theorem numbersReadBack_array {items : List Json} :
    NumbersReadBack (.array items) ↔ ∀ item ∈ items, NumbersReadBack item := by
  constructor
  · intro h item member x inside
    exact h x (.item member inside)
  · intro h x inside
    cases inside with
    | item member inside => exact h _ member x inside

theorem numbersReadBack_object {members : List (String × Json)} :
    NumbersReadBack (.object members) ↔ ∀ m ∈ members, NumbersReadBack m.2 := by
  constructor
  · intro h m member x inside
    exact h x (.member member inside)
  · intro h x inside
    cases inside with
    | member member inside => exact h _ member x inside

/-- The text of a value is read back if the numbers in it are. -/
theorem readsBack {v : Json} (numbers : NumbersReadBack v) : ReadsBack v := by
  induction v using Json.induction with
  | null => exact readsBack_of_scalar rfl fun _ _ => rfl
  | bool b => exact readsBack_of_scalar rfl fun rest _ => scalar_boolean b rest
  | integer i => exact readsBack_of_scalar rfl fun _ after => scalar_integer i after
  | number x => exact readsBack_of_scalar rfl fun _ after => (numbers x .self).scalar_eq after
  | string s => exact readsBack_of_scalar rfl fun rest _ => scalar_quoted s rest
  | array items ih =>
    exact readsBack_array fun item member =>
      ih item member (numbersReadBack_array.mp numbers item member)
  | object members ih =>
    exact readsBack_object fun m member =>
      ih m member (numbersReadBack_object.mp numbers m member)

/-- A value whose numbers are read back is read back from its text unless containers are nested too
deep in it. -/
theorem ofSource?_text {v : Json} (numbers : NumbersReadBack v) :
    ofSource? v.text = if v.depth ≤ maxDepth then some v else none := by
  have read := readsBack numbers maxDepth [] afterNumber_nil
  rw [List.append_nil] at read
  rw [ofSource?, text, String.toList_ofList, (starts_write v).skipBlanks_eq, read]
  by_cases within : v.depth ≤ maxDepth
  · rw [if_pos within, if_pos within]
    rfl
  · rw [if_neg within, if_neg within]

end BoundQuery.Json
