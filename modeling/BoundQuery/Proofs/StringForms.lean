import BoundQuery.Proofs.Normalisation
import BoundQuery.Proofs.StampGrammar
import Mathlib.Data.List.Forall2

/-!
# What a string stands for

A JSON string stands for a time stamp, an identifier or a text. Two grammars decide which: that of
strict time stamps and that of the four forms of an identifier. No string is in both.

Results:
1. `Text.hexValue?_eq_some_iff` / `Uuid.unhyphenated_eq_some_iff`: digits in either case, and groups
   of them.
2. `Uuid.ofText?_eq_some_iff`: the reader of identifiers and the four forms.
3. `Value.ofString_eq_iff`: what a string stands for, as a relation of its own.
4. `Value.string_classified`: every string, in whatever order it is tried.
-/

namespace BoundQuery

/-! ## Hexadecimal digits -/

namespace Text

/-- A digit of the value in lower or upper case. -/
def IsHexDigit (c : Char) (value : Fin 16) : Prop := c = hexChar value ∨ c = (hexChar value).toUpper

theorem toNat_lt_of_hexValue? {c : Char} {value : Fin 16} (h : hexValue? c = some value) :
    c.toNat < 103 := by
  by_contra large
  have foreign : hexValue? c = none := by
    unfold hexValue?
    rw [dif_neg (by omega), dif_neg (by omega), dif_neg (by omega)]
  cases foreign.symm.trans h

theorem hexValue?_eq_some_iff {c : Char} {value : Fin 16} :
    hexValue? c = some value ↔ IsHexDigit c value := by
  constructor
  · intro h
    have digits : ∀ n < 103, ∀ v : Fin 16, hexValue? (Char.ofNat n) = some v →
        Char.ofNat n = hexChar v ∨ Char.ofNat n = (hexChar v).toUpper := by decide
    have small := toNat_lt_of_hexValue? h
    rw [← Char.ofNat_toNat c] at h ⊢
    exact digits c.toNat small value h
  · have both : ∀ v : Fin 16, hexValue? (hexChar v) = some v ∧
        hexValue? (hexChar v).toUpper = some v := by decide
    rintro (rfl | rfl)
    · exact (both value).1
    · exact (both value).2

end Text

namespace Uuid

/-! ## The four forms -/

/-- Digits in groups of the given sizes, with hyphens between the groups and without. -/
inductive Grouped : List Nat → List Char → List Char → Prop
  | last {size : Nat} {group : List Char} : group.length = size → Grouped [size] group group
  | cons {size : Nat} {rest : List Nat} {group text digits : List Char} : group.length = size →
      Grouped rest text digits → Grouped (size :: rest) (group ++ '-' :: text) (group ++ digits)

/-- Thirty-two digits with hyphens behind the eighth, twelfth, sixteenth and twentieth. -/
inductive Hyphenated : List Char → Uuid → Prop
  | intro {text digits : List Char} {u : Uuid} : Grouped [8, 4, 4, 4, 12] text digits →
      List.Forall₂ Text.IsHexDigit digits u.digits → Hyphenated text u

/-- The forms of an identifier: without hyphens, with them, in braces, or behind the name of the URN
scheme in any case. -/
inductive Form : List Char → Uuid → Prop
  | simple {digits : List Char} {u : Uuid} : List.Forall₂ Text.IsHexDigit digits u.digits →
      Form digits u
  | hyphenated {text : List Char} {u : Uuid} : Hyphenated text u → Form text u
  | braced {text : List Char} {u : Uuid} : Hyphenated text u → Form ('\x7b' :: (text ++ ['\x7d'])) u
  | urn {scheme text : List Char} {u : Uuid} : scheme.map Char.toLower = "urn:uuid:".toList →
      Hyphenated text u → Form (scheme ++ text) u

/-! ## Reading them -/

theorem digitValues?_eq_some_iff {s : List Char} {digits : List (Fin 16)} :
    digitValues? s = some digits ↔ List.Forall₂ Text.IsHexDigit s digits := by
  induction s generalizing digits with
  | nil => simp [digitValues?, eq_comm]
  | cons c rest ih =>
    rw [digitValues?, List.forall₂_cons_left_iff]
    constructor
    · intro h
      split at h
      · next d ds first others =>
        cases h
        exact ⟨d, ds, Text.hexValue?_eq_some_iff.mp first, ih.mp others, rfl⟩
      · cases h
    · rintro ⟨d, ds, first, others, rfl⟩
      rw [Text.hexValue?_eq_some_iff.mpr first, ih.mpr others]

theorem ofDigits?_eq_some_iff {s : List Char} {u : Uuid} :
    ofDigits? s = some u ↔ List.Forall₂ Text.IsHexDigit s u.digits := by
  rw [← digitValues?_eq_some_iff, ofDigits?]
  constructor
  · intro h
    split at h
    · next digits read =>
      split at h
      · cases h
        exact read
      · cases h
    · cases h
  · intro read
    rw [read]
    exact dif_pos u.length_eq

theorem Grouped.length_eq {sizes : List Nat} {text digits : List Char}
    (h : Grouped sizes text digits) : text.length + 1 = digitCount sizes + sizes.length := by
  induction h with
  | last long => simp [digitCount, long]
  | cons long _ ih =>
    simp only [List.length_append, List.length_cons, digitCount]
    omega

/-- The hyphens are taken out exactly from between groups of the given sizes. -/
theorem unhyphenated_eq_some_iff {size : Nat} {rest : List Nat} {text digits : List Char} :
    unhyphenated (size :: rest) text = some digits ↔ Grouped (size :: rest) text digits := by
  induction rest generalizing size text digits with
  | nil =>
    rw [unhyphenated]
    constructor
    · intro h
      split at h
      · next long =>
        cases h
        exact .last long
      · cases h
    · rintro (long | ⟨_, more⟩)
      · exact if_pos long
      · cases more
  | cons next rest ih =>
    simp only [unhyphenated]
    constructor
    · intro h
      split at h
      · next tail hyphen =>
        obtain ⟨others, read, rfl⟩ := Option.map_eq_some_iff.mp h
        have cut : text.take size ++ '-' :: tail = text := by
          rw [← hyphen, List.take_append_drop]
        -- A group that is cut short leaves nothing behind, so there would be no hyphen.
        have long : (text.take size).length = size := by
          have behind := congrArg List.length hyphen
          rw [List.length_drop, List.length_cons] at behind
          exact List.length_take_of_le (by omega)
        have grouped := Grouped.cons long (ih.mp read)
        rwa [cut] at grouped
      · cases h
    · rintro (_ | ⟨long, more⟩)
      rw [List.drop_left' long, List.take_left' long]
      simp [ih.mpr more]

theorem Hyphenated.length_eq {text : List Char} {u : Uuid} (h : Hyphenated text u) :
    text.length = 36 := by
  obtain ⟨grouped, _⟩ := h
  exact Nat.succ.inj grouped.length_eq

theorem hyphenated_iff {text : List Char} {u : Uuid} :
    Hyphenated text u ↔ (unhyphenated groups text).bind ofDigits? = some u := by
  rw [Option.bind_eq_some_iff]
  constructor
  · rintro ⟨grouped, digits⟩
    exact ⟨_, unhyphenated_eq_some_iff.mpr grouped, ofDigits?_eq_some_iff.mpr digits⟩
  · rintro ⟨digits, grouped, read⟩
    exact .intro (unhyphenated_eq_some_iff.mp grouped) (ofDigits?_eq_some_iff.mp read)

/-- What is removed from around a text: nothing, braces or the name of the scheme. -/
theorem unwrapped_cases (s : List Char) :
    unwrapped s = s ∨ s = '\x7b' :: (unwrapped s ++ ['\x7d']) ∨
      ∃ scheme, scheme.map Char.toLower = "urn:uuid:".toList ∧ s = scheme ++ unwrapped s := by
  unfold unwrapped
  split
  · next rest =>
    split
    · next closed => exact .inr (.inl (by rw [List.dropLast_append_getLast? _ closed.2]))
    · exact .inl rfl
  · split
    · next named =>
      exact .inr (.inr ⟨s.take 9, named.2, (List.take_append_drop 9 s).symm⟩)
    · exact .inl rfl

theorem unwrapped_plain {text : List Char} (long : text.length = 36) : unwrapped text = text := by
  unfold unwrapped
  split
  · next rest =>
    rw [List.length_cons] at long
    exact if_neg fun closed => absurd closed.1 (by omega)
  · exact if_neg fun named => absurd named.1 (by omega)

theorem unwrapped_braced {text : List Char} (long : text.length = 36) :
    unwrapped ('\x7b' :: (text ++ ['\x7d'])) = text := by
  simp [unwrapped, long]

theorem unwrapped_urn {scheme text : List Char}
    (named : scheme.map Char.toLower = "urn:uuid:".toList) (long : text.length = 36) :
    unwrapped (scheme ++ text) = text := by
  have short : scheme.length = 9 := by simpa using congrArg List.length named
  unfold unwrapped
  split
  · next rest brace =>
    cases scheme with
    | nil => cases named
    | cons c cs =>
      cases brace
      exact absurd (List.head_eq_of_cons_eq named) (by decide)
  · rw [List.take_left' short, List.drop_left' short]
    exact if_pos ⟨by rw [List.length_append, short, long], named⟩

theorem ofText?_eq (s : List Char) :
    ofText? s = if s.length = 32 then ofDigits? s
      else (unhyphenated groups (unwrapped s)).bind ofDigits? := by
  rw [ofText?]
  cases unhyphenated groups (unwrapped s) <;> rfl

/-- The reader takes a text for an identifier exactly if the text is a form of it. -/
theorem ofText?_eq_some_iff {s : List Char} {u : Uuid} : ofText? s = some u ↔ Form s u := by
  rw [ofText?_eq]
  constructor
  · intro h
    split at h
    · exact .simple (ofDigits?_eq_some_iff.mp h)
    · have inner : Hyphenated (unwrapped s) u := hyphenated_iff.mpr h
      rcases unwrapped_cases s with plain | braced | ⟨scheme, named, urn⟩
      · rw [plain] at inner
        exact .hyphenated inner
      · rw [braced]
        exact .braced inner
      · rw [urn]
        exact .urn named inner
  · rintro (digits | inner | inner | ⟨named, inner⟩)
    · rw [if_pos (digits.length_eq.trans u.length_eq)]
      exact ofDigits?_eq_some_iff.mpr digits
    · rw [unwrapped_plain inner.length_eq, if_neg (by simp [inner.length_eq])]
      exact hyphenated_iff.mp inner
    · rw [unwrapped_braced inner.length_eq, if_neg (by simp [inner.length_eq])]
      exact hyphenated_iff.mp inner
    · rw [unwrapped_urn named inner.length_eq, if_neg (by simp [inner.length_eq])]
      exact hyphenated_iff.mp inner

end Uuid

namespace Value

open Time (Denotes StampText)

/-! ## Strings -/

/-- What a string stands for, by the grammars. -/
inductive StandsFor (s : String) : Value → Prop
  | time {t : Instant} : Denotes s.toList t → StandsFor s (timestamp t)
  | uuid {u : Uuid} : Uuid.Form s.toList u → StandsFor s (uuid u)
  | plain : (¬∃ date time offset, StampText s.toList date time offset) →
      (¬∃ u, Uuid.Form s.toList u) → StandsFor s (text s)

theorem not_exists_form_iff {s : List Char} : (¬∃ u, Uuid.Form s u) ↔ Uuid.ofText? s = none := by
  rw [Option.eq_none_iff_forall_ne_some, not_exists]
  exact forall_congr' fun u => not_congr Uuid.ofText?_eq_some_iff.symm

theorem ofString_eq_iff {s : String} {v : Value} : ofString s = v ↔ StandsFor s v := by
  constructor
  · rintro rfl
    rcases string_cases s with ⟨t, time⟩ | ⟨u, read⟩ | ⟨noTime, noUuid⟩
    · rw [ofString_of_names time]
      exact .time (Time.names_iff.mp time)
    · rw [ofString_of_uuid read]
      exact .uuid (Uuid.ofText?_eq_some_iff.mp read)
    · rw [ofString_of_plain noTime noUuid]
      exact .plain (by rwa [← Time.isStamp_iff]) (not_exists_form_iff.mpr noUuid)
  · rintro (time | form | ⟨noTime, noForm⟩)
    · exact ofString_of_names (Time.names_iff.mpr time)
    · exact ofString_of_uuid (Uuid.ofText?_eq_some_iff.mpr form)
    · rw [← Time.isStamp_iff] at noTime
      exact ofString_of_plain noTime (not_exists_form_iff.mp noForm)

theorem ofString_eq_timestamp_iff {s : String} {t : Instant} :
    ofString s = timestamp t ↔ Denotes s.toList t := by
  rw [ofString_eq_iff]
  constructor
  · rintro ⟨time⟩
    exact time
  · exact .time

theorem ofString_eq_uuid_iff {s : String} {u : Uuid} :
    ofString s = uuid u ↔ Uuid.Form s.toList u := by
  rw [ofString_eq_iff]
  constructor
  · rintro (_ | form)
    exact form
  · exact .uuid

theorem ofString_eq_text_iff {s other : String} :
    ofString s = text other ↔ other = s ∧
      (¬∃ date time offset, StampText s.toList date time offset) ∧ ¬∃ u, Uuid.Form s.toList u := by
  rw [ofString_eq_iff]
  constructor
  · rintro (_ | _ | ⟨noTime, noForm⟩)
    exact ⟨rfl, noTime, noForm⟩
  · rintro ⟨rfl, noTime, noForm⟩
    exact .plain noTime noForm

/-- No text is a time stamp and a form of an identifier. -/
theorem not_stamp_and_form {s : List Char} :
    ¬((∃ date time offset, StampText s date time offset) ∧ ∃ u, Uuid.Form s u) := by
  rintro ⟨stamp, form⟩
  rw [← Time.isStamp_iff, ← Time.exists_names_iff] at stamp
  obtain ⟨t, names⟩ := stamp
  have read := Time.ofStrict?_eq_some_iff.mpr names
  exact not_exists_form_iff.mpr (Time.ofText?_eq_none_of_ofStrict? read) form

/-- Trying identifiers first makes no difference. -/
theorem ofString_swapped (s : String) :
    ofString s = (((Uuid.ofText? s.toList).map uuid).or
      ((Time.ofStrict? s.toList).map timestamp)).getD (text s) := by
  rw [ofString]
  cases read : Time.ofStrict? s.toList with
  | some t =>
    rw [Time.ofText?_eq_none_of_ofStrict? read]
    rfl
  | none => cases Uuid.ofText? s.toList <;> rfl

/-- A string stands for an instant exactly if it is a strict time stamp that denotes it, and each
strict time stamp denotes one. It stands for an identifier exactly if it is a form of it. Any other
string stands for itself as a text. No string is a time stamp and an identifier, so it does not
matter which of the two is tried first. -/
theorem string_classified (s : String) :
    (∀ t, ofJson (.string s) = timestamp t ↔ Denotes s.toList t) ∧
    ((∃ t, ofJson (.string s) = timestamp t) ↔
      ∃ date time offset, StampText s.toList date time offset) ∧
    (∀ u, ofJson (.string s) = uuid u ↔ Uuid.Form s.toList u) ∧
    (∀ other, ofJson (.string s) = text other ↔ other = s ∧
      (¬∃ date time offset, StampText s.toList date time offset) ∧ ¬∃ u, Uuid.Form s.toList u) ∧
    ¬((∃ date time offset, StampText s.toList date time offset) ∧ ∃ u, Uuid.Form s.toList u) ∧
    ofJson (.string s) = (((Uuid.ofText? s.toList).map uuid).or
      ((Time.ofStrict? s.toList).map timestamp)).getD (text s) := by
  rw [ofJson]
  refine ⟨fun _ => ofString_eq_timestamp_iff, ?_, fun _ => ofString_eq_uuid_iff,
    fun _ => ofString_eq_text_iff, not_stamp_and_form, ofString_swapped s⟩
  rw [← Time.isStamp_iff, ← Time.exists_names_iff]
  exact exists_congr fun t => ofString_eq_timestamp_iff.trans Time.names_iff.symm

end Value

end BoundQuery
