import BoundQuery.Text.Hex

/-!
# UUIDs

A UUID is thirty-two hexadecimal digits. It is written in lower case with hyphens, and read in
four forms: with hyphens, without them, with hyphens in braces, or behind `urn:uuid:`.

Main statement: `ofText?_text`, the written form is read back.
-/

namespace BoundQuery

/-- A 128-bit identifier, most significant digit first. -/
structure Uuid where
  digits : List (Fin 16)
  length_eq : digits.length = 32
deriving DecidableEq, Repr

namespace Uuid

instance : Inhabited Uuid := ⟨⟨List.replicate 32 ⟨0, by decide⟩, by decide⟩⟩

/-- The digits as one number. -/
def value (u : Uuid) : Nat := u.digits.foldl (fun n d => n * 16 + d.val) 0

/-- The sizes of the groups between hyphens. -/
def groups : List Nat := [8, 4, 4, 4, 12]

/-- How many digits groups of the given sizes hold. -/
def digitCount : List Nat → Nat
  | [] => 0
  | size :: rest => size + digitCount rest

/-- Cuts off the digits of each group, with a hyphen between groups. -/
def hyphenated : List Nat → List Char → List Char
  | [], _ => []
  | [size], s => s.take size
  | size :: rest, s => s.take size ++ '-' :: hyphenated rest (s.drop size)

/-- The lower-case form with hyphens. -/
def text (u : Uuid) : List Char := hyphenated groups (u.digits.map Text.hexChar)

/-- Takes the hyphens out from between groups of exactly the given sizes. -/
def unhyphenated : List Nat → List Char → Option (List Char)
  | [], [] => some []
  | [], _ => none
  | [size], s => if s.length = size then some s else none
  | size :: rest, s =>
    match s.drop size with
    | '-' :: tail => (unhyphenated rest tail).map (s.take size ++ ·)
    | _ => none

/-- The values of all digits, if every character is one. -/
def digitValues? : List Char → Option (List (Fin 16))
  | [] => some []
  | c :: rest =>
    match Text.hexValue? c, digitValues? rest with
    | some d, some ds => some (d :: ds)
    | _, _ => none

/-- The identifier with the given digits, if there are thirty-two of them. -/
def ofDigits? (s : List Char) : Option Uuid :=
  match digitValues? s with
  | some digits => if length_eq : digits.length = 32 then some ⟨digits, length_eq⟩ else none
  | none => none

/-- Removes braces, or the name of the URN scheme in any case, from around a hyphenated form. -/
def unwrapped (s : List Char) : List Char :=
  match s with
  | '\x7b' :: rest =>
    if rest.length = 37 ∧ rest.getLast? = some '\x7d' then rest.dropLast else s
  | _ =>
    if s.length = 45 ∧ (s.take 9).map Char.toLower = "urn:uuid:".toList then s.drop 9 else s

/-- Reads a whole text as an identifier. -/
def ofText? (s : List Char) : Option Uuid :=
  if s.length = 32 then ofDigits? s
  else match unhyphenated groups (unwrapped s) with
    | some digits => ofDigits? digits
    | none => none

theorem digitValues?_map_hexChar (digits : List (Fin 16)) :
    digitValues? (digits.map Text.hexChar) = some digits := by
  induction digits with
  | nil => rfl
  | cons d ds ih => simp [digitValues?, Text.hexValue?_hexChar, ih]

theorem ofDigits?_map_hexChar (u : Uuid) : ofDigits? (u.digits.map Text.hexChar) = some u := by
  simp [ofDigits?, digitValues?_map_hexChar, u.length_eq]

theorem unhyphenated_hyphenated (sizes : List Nat) (s : List Char) (fits : s.length = digitCount sizes) :
    unhyphenated sizes (hyphenated sizes s) = some s := by
  induction sizes generalizing s with
  | nil => simp_all [hyphenated, unhyphenated, digitCount]
  | cons size rest ih =>
    cases rest with
    | nil =>
      have fits : s.length = size := fits
      have whole : s.take size = s := List.take_of_length_le (by omega)
      simp only [hyphenated, unhyphenated, whole]
      simp [fits]
    | cons next rest =>
      have short : (s.take size).length = size := by
        simp only [digitCount] at fits
        simp only [List.length_take]
        omega
      have tail := ih (s.drop size) (by simp only [digitCount] at fits ⊢; simp; omega)
      simp only [hyphenated, unhyphenated]
      rw [List.drop_left' short, List.take_left' short]
      simp [tail]

theorem length_hyphenated (sizes : List Nat) (s : List Char) (fits : s.length = digitCount sizes) :
    (hyphenated sizes s).length = digitCount sizes + (sizes.length - 1) := by
  induction sizes generalizing s with
  | nil => rfl
  | cons size rest ih =>
    cases rest with
    | nil => simp_all [hyphenated, digitCount]
    | cons next rest =>
      have tail := ih (s.drop size) (by simp only [digitCount] at fits ⊢; simp; omega)
      simp only [hyphenated, List.length_append, List.length_cons, tail, List.length_take]
      simp only [digitCount, List.length_cons] at *
      omega

theorem length_hexDigits (u : Uuid) : (u.digits.map Text.hexChar).length = digitCount groups := by
  rw [List.length_map, u.length_eq]
  rfl

theorem length_text (u : Uuid) : u.text.length = 36 :=
  length_hyphenated groups _ u.length_hexDigits

/-- The written form is read back. -/
theorem ofText?_text (u : Uuid) : ofText? u.text = some u := by
  have long := length_text u
  have plain : unwrapped u.text = u.text := by
    obtain ⟨c, rest, shape⟩ : ∃ c rest, u.text = c :: rest := by
      cases h : u.text with
      | nil => simp [h] at long
      | cons c rest => exact ⟨c, rest, rfl⟩
    have short : rest.length = 35 := by simpa [shape] using long
    rw [shape]
    unfold unwrapped
    split
    · next same => cases same; simp [short]
    · simp [short]
  simp only [ofText?, long, plain]
  simp only [text, unhyphenated_hyphenated groups _ u.length_hexDigits, ofDigits?_map_hexChar]
  simp

theorem digitValues?_eq_none {s : List Char} {c : Char} (member : c ∈ s)
    (foreign : Text.hexValue? c = none) : digitValues? s = none := by
  induction s with
  | nil => cases member
  | cons head rest ih =>
    rw [digitValues?]
    rcases List.mem_cons.mp member with rfl | member
    · rw [foreign]
    · rw [ih member]
      cases Text.hexValue? head <;> rfl

/-- Nothing is removed from a text that starts neither with a brace nor with the name of the
scheme. -/
theorem unwrapped_eq_self {s : List Char} (plain : ∀ c ∈ s.head?, c ≠ '\x7b' ∧ c.toLower ≠ 'u') :
    unwrapped s = s := by
  cases s with
  | nil => rfl
  | cons c rest =>
    obtain ⟨noBrace, noScheme⟩ := plain c rfl
    unfold unwrapped
    split
    · next same =>
      cases same
      exact absurd rfl noBrace
    · refine if_neg fun scheme => noScheme ?_
      exact List.head_eq_of_cons_eq scheme.2

/-- A plain text with anything but digits before the first hyphen is no identifier. -/
theorem ofText?_eq_none {s : List Char} (plain : ∀ c ∈ s.head?, c ≠ '\x7b' ∧ c.toLower ≠ 'u')
    {c : Char} (member : c ∈ s.take 8) (foreign : Text.hexValue? c = none) : ofText? s = none := by
  have noDigits : ∀ {digits}, c ∈ digits → ofDigits? digits = none := by
    intro digits member
    rw [ofDigits?, digitValues?_eq_none member foreign]
  rw [ofText?, unwrapped_eq_self plain]
  split
  · exact noDigits (List.mem_of_mem_take member)
  · split
    · next digits taken =>
      refine noDigits ?_
      simp only [groups, unhyphenated] at taken
      split at taken
      · obtain ⟨tail, _, rfl⟩ := Option.map_eq_some_iff.mp taken
        exact List.mem_append_left _ member
      · cases taken
    · rfl

end Uuid

end BoundQuery
