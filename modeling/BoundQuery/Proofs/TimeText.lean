import BoundQuery.Proofs.Calendar
import BoundQuery.Time.Strict
import BoundQuery.Uuid
import Mathlib.Data.Option.Basic

/-!
# Texts of instants

A strict time stamp states a local time and the offset of its zone, and names the instant that is
the offset earlier. Every strict time stamp names one: whole minutes are taken off, so a leap second
stays behind the last second of a minute. The written form of an instant is a strict time stamp only
if its year has four digits, as any other year is written with a sign.

Where a text is refused as a time stamp, it is tried as an identifier. The order makes no
difference, since no text is both.

Results:
1. `ofStrict?_eq_some_iff` / `exists_names_iff`: what a strict time stamp says, in seconds since
   1970.
2. `ofStrict?_text`: which instants are read back from their text.
3. `ofText?_eq_none_of_ofStrict?` / `ofText?_numericText`: neither a time stamp nor the text of an
   instant is an identifier.
-/

namespace BoundQuery.Time

open Text (padded fixedNat fixedNat_padded fixedNat_two spanDigits)

/-! ## What a time stamp says -/

/-- The text is a date, a mark, a time of day and a zone with the given offset. -/
inductive Reads : List Char → Date → Nat → Nat → Int → Prop
  | intro {s afterDate afterClock : List Char} {date : Date} {mark : Char} {second nano : Nat}
      {offset : Int} : strictDate s = some (date, mark :: afterDate) → isTimeMark mark = true →
      strictClock afterDate = some ((second, nano), afterClock) →
      strictZone afterClock = some offset → Reads s date second nano offset

/-- The text is a strict time stamp. -/
def IsStamp (s : List Char) : Prop :=
  ∃ date second nano offset, Reads s date second nano offset

/-- The text is a strict time stamp, and its local time less the offset is the instant, counted in
seconds from the start of 1970. -/
def Names (s : List Char) (t : Instant) : Prop :=
  ∃ date second nano offset, Reads s date second nano offset ∧
    t.unixSeconds = date.dayNumber * 86400 + second - offset ∧ t.nano = nano

theorem year_of_strictDate {s rest : List Char} {d : Date} (h : strictDate s = some (d, rest)) :
    0 ≤ d.year ∧ d.year < 10000 := by
  simp only [strictDate, bind, Option.bind_eq_some_iff] at h
  obtain ⟨⟨year, _⟩, read, _, _, ⟨month, _⟩, _, _, _, ⟨day, _⟩, _, date, civil, same⟩ := h
  cases same
  have below : year < 10000 := Text.fixedNat_lt read
  rw [(Date.ofCivil?_eq_some_iff.mp civil).1]
  omega

theorem nanosOfDigits_lt {digits : List Char} (all : ∀ c ∈ digits, c.isDigit = true) :
    nanosOfDigits digits < 1000000000 := by
  let kept := digits.take 9
  have short : kept.length ≤ 9 := List.length_take_le 9 digits
  have below : Text.natOfDigits kept < Nat.pow 10 kept.length :=
    Text.natOfDigits_lt fun c member => all c (List.mem_of_mem_take member)
  have whole : Nat.pow 10 kept.length * Nat.pow 10 (9 - kept.length) = 1000000000 := by
    have sum := Nat.pow_add 10 kept.length (9 - kept.length)
    rw [Nat.add_sub_cancel' short] at sum
    exact sum.symm
  rw [← whole]
  exact Nat.mul_lt_mul_of_pos_right below (Nat.pow_pos (by decide))

theorem fraction_lt {s rest : List Char} {nano : Nat} (h : fraction s = some (nano, rest)) :
    nano < 1000000000 := by
  unfold fraction at h
  split at h
  · simp only at h
    split at h
    · cases h
    · cases h
      exact nanosOfDigits_lt fun _ => Text.isDigit_of_mem_spanDigits
  · cases h
    decide

theorem fits_of_strictClock {s rest : List Char} {second nano : Nat}
    (h : strictClock s = some ((second, nano), rest)) : FitsSecond second nano := by
  simp only [strictClock, bind, Option.bind_eq_some_iff] at h
  obtain ⟨⟨hour, _⟩, _, _, _, ⟨minute, _⟩, _, _, _, ⟨last, _⟩, _, ⟨part, _⟩, read, time, civil,
    same⟩ := h
  cases same
  have below := fraction_lt read
  rw [clock] at civil
  split at civil
  · split at civil
    · cases civil
      exact ⟨by omega, by omega⟩
    · cases civil
      exact ⟨by omega, by omega⟩
  · cases civil

/-- A zone is less than a day ahead or behind, by whole minutes. -/
theorem offset_of_strictZone {s : List Char} {offset : Int} (h : strictZone s = some offset) :
    (-86400 < offset ∧ offset < 86400) ∧ offset % 60 = 0 := by
  unfold strictZone at h
  split at h
  · cases h
    decide
  · cases h
    decide
  · simp only [bind, Option.bind_eq_some_iff] at h
    obtain ⟨⟨negative, _⟩, _, ⟨hours, _⟩, _, _, _, ⟨minutes, _⟩, _, read⟩ := h
    split at read
    · rw [zoneSeconds] at read
      split at read
      · cases read
        split <;> omega
      · cases read
    · cases read

theorem Reads.ofLocal?_eq_some_iff {s : List Char} {date : Date} {second nano : Nat} {offset : Int}
    (h : Reads s date second nano offset) {t : Instant} :
    Instant.ofLocal? date second nano offset = some t ↔
      t.unixSeconds = date.dayNumber * 86400 + second - offset ∧ t.nano = nano := by
  obtain ⟨_, _, readClock, readZone⟩ := h
  exact Instant.ofLocal?_eq_some_iff (fits_of_strictClock readClock).1
    (offset_of_strictZone readZone).1

/-- The reader takes a text for an instant exactly if the text names it. -/
theorem ofStrict?_eq_some_iff {s : List Char} {t : Instant} : ofStrict? s = some t ↔ Names s t := by
  rw [ofStrict?]
  constructor
  · intro h
    simp only [bind, Option.bind_eq_some_iff] at h
    obtain ⟨⟨date, behind⟩, readDate, h⟩ := h
    cases behind with
    | nil => cases h
    | cons mark afterDate =>
      simp only [Option.bind_eq_some_iff, Option.guard_eq_some'] at h
      obtain ⟨_, marked, ⟨⟨second, nano⟩, afterClock⟩, readClock, offset, readZone, read⟩ := h
      have reads : Reads s date second nano offset := ⟨readDate, marked, readClock, readZone⟩
      exact ⟨date, second, nano, offset, reads, reads.ofLocal?_eq_some_iff.mp read⟩
  · rintro ⟨date, second, nano, offset, reads, instant⟩
    have read := reads.ofLocal?_eq_some_iff.mpr instant
    obtain ⟨readDate, marked, readClock, readZone⟩ := reads
    have passed := (Option.guard_eq_some' ()).mpr marked
    simp [readDate, passed, readClock, readZone, read]

/-- Every strict time stamp names an instant. -/
theorem exists_names_iff {s : List Char} : (∃ t, Names s t) ↔ IsStamp s := by
  constructor
  · rintro ⟨t, date, second, nano, offset, reads, _⟩
    exact ⟨date, second, nano, offset, reads⟩
  · rintro ⟨date, second, nano, offset, reads⟩
    obtain ⟨readDate, _, readClock, readZone⟩ := id reads
    have years : -262143 < date.year ∧ date.year < 262142 := by
      have fourDigits := year_of_strictDate readDate
      omega
    obtain ⟨inZone, minutes⟩ := offset_of_strictZone readZone
    obtain ⟨t, read⟩ :=
      Instant.exists_ofLocal? years (fits_of_strictClock readClock) inZone minutes
    exact ⟨t, date, second, nano, offset, reads, reads.ofLocal?_eq_some_iff.mp read⟩

theorem ofStrict?_eq_none_iff {s : List Char} : ofStrict? s = none ↔ ¬IsStamp s := by
  rw [← exists_names_iff, Option.eq_none_iff_forall_ne_some, not_exists]
  exact forall_congr' fun t => not_congr ofStrict?_eq_some_iff

/-! ## Reading the written form back -/

theorem nanosOfDigits_padded {width nano : Nat} (positive : 0 < width) (short : width ≤ 9)
    (fits : nano < Nat.pow 10 width) :
    nanosOfDigits (padded width nano) = nano * Nat.pow 10 (9 - width) := by
  have long : (padded width nano).length = width := Text.length_padded positive fits
  rw [nanosOfDigits, List.take_of_length_le (by omega), Text.natOfDigits_padded, long]

/-- A text that goes on neither with a digit nor with a point. -/
def EndsNumber (rest : List Char) : Prop :=
  ∀ c ∈ rest.head?, c.isDigit = false ∧ c ≠ '.'

theorem fraction_point {width part nano : Nat} (positive : 0 < width) (short : width ≤ 9)
    (fits : part < Nat.pow 10 width) (whole : part * Nat.pow 10 (9 - width) = nano)
    {rest : List Char} (stop : EndsNumber rest) :
    fraction ('.' :: padded width part ++ rest) = some (nano, rest) := by
  have split : spanDigits (padded width part ++ rest) = (padded width part, rest) :=
    Text.spanDigits_of_stop (fun _ => Text.isDigit_of_mem_padded) fun c head => (stop c head).1
  have filled : padded width part ≠ [] := by
    intro empty
    have long := Text.length_padded positive fits
    rw [empty] at long
    exact absurd long.symm (Nat.ne_of_gt positive)
  have nanos := (nanosOfDigits_padded positive short fits).trans whole
  simp [fraction, split, filled, nanos]

theorem fraction_fractionText {nano : Nat} (below : nano < 1000000000) {rest : List Char}
    (stop : EndsNumber rest) :
    fraction (Instant.fractionText nano ++ rest) = some (nano, rest) := by
  unfold Instant.fractionText
  split
  · next none =>
    subst none
    show fraction rest = _
    unfold fraction
    split
    · exact absurd rfl (stop '.' rfl).2
    · rfl
  · split
    · have fits : nano / 1000000 < 1000 := by omega
      have whole : nano / 1000000 * 1000000 = nano := by omega
      exact fraction_point (by decide) (by decide) fits whole stop
    · split
      · have fits : nano / 1000 < 1000000 := by omega
        have whole : nano / 1000 * 1000 = nano := by omega
        exact fraction_point (by decide) (by decide) fits whole stop
      · exact fraction_point (by decide) (by decide) below (Nat.mul_one nano) stop

/-- A leap second is written as second 60 and read as one. -/
theorem clock_parts {second nano : Nat} (fits : FitsSecond second nano) :
    clock (second / 3600) (second / 60 % 60) (second % 60 + nano / 1000000000) (nano % 1000000000) =
      some (second, nano) := by
  obtain ⟨inDay, inSecond⟩ := fits
  rw [clock, if_pos ⟨by omega, by omega, by omega⟩]
  split
  · congr 2 <;> omega
  · congr 2 <;> omega

theorem strictClock_clockText {second nano : Nat} (fits : FitsSecond second nano)
    {rest : List Char} (stop : EndsNumber rest) :
    strictClock (Instant.clockText second nano ++ rest) = some ((second, nano), rest) := by
  obtain ⟨inDay, inSecond⟩ := id fits
  have hour := fixedNat_two (n := second / 3600) (by omega)
  have minute := fixedNat_two (n := second / 60 % 60) (by omega)
  have leap := fixedNat_two (n := second % 60 + nano / 1000000000) (by omega)
  have part : fraction (Instant.fractionText (nano % 1000000000) ++ rest) =
      some (nano % 1000000000, rest) := fraction_fractionText (by omega) stop
  simp [strictClock, Instant.clockText, expect, hour, minute, leap, part, clock_parts fits]

theorem strictDate_text {d : Date} (years : 0 ≤ d.year ∧ d.year ≤ 9999) (rest : List Char) :
    strictDate (d.text ++ rest) = some (d, rest) := by
  obtain ⟨_, months, days⟩ := d.civil
  have inMonth : monthLength d.year d.month ≤ 31 := monthLength_le d.year d.month
  have year (tail : List Char) : fixedNat 4 (padded 4 d.year.natAbs ++ tail) =
      some (d.year.natAbs, tail) := fixedNat_padded (by decide) (by show _ < 10000; omega) tail
  have month := fixedNat_two (n := d.month) (by omega)
  have day := fixedNat_two (n := d.day) (by omega)
  have same : ((d.year.natAbs : Nat) : Int) = d.year := by omega
  have read : Date.ofCivil? d.year d.month d.day = some d :=
    Date.ofCivil?_eq_some_iff.mpr ⟨rfl, rfl, rfl⟩
  simp [strictDate, Date.text, Date.yearText, years, expect, year, month, day, same, read]

/-- A sign in front of the year is refused. -/
theorem strictDate_text_eq_none {d : Date} (years : ¬(0 ≤ d.year ∧ d.year ≤ 9999))
    (rest : List Char) : strictDate (d.text ++ rest) = none := by
  have sign : (if d.year < 0 then '-' else '+').isDigit = false := by split <;> rfl
  simp [strictDate, Date.text, Date.yearText, years, fixedNat, sign]

/-- An instant in UTC is read back from its text exactly if its year has four digits. -/
theorem ofStrict?_text {zone : String} (utc : strictZone zone.toList = some 0)
    (stop : EndsNumber zone.toList) (t : Instant) :
    ofStrict? (t.text zone) = if 0 ≤ t.date.year ∧ t.date.year ≤ 9999 then some t else none := by
  have read : Instant.ofLocal? t.date t.second t.nano 0 = some t :=
    (Instant.ofLocal?_eq_some_iff t.fits.1 ⟨by decide, by decide⟩).mpr
      ⟨(Int.sub_zero _).symm, rfl⟩
  have passed : guard (isTimeMark 'T' = true) = some () := (Option.guard_eq_some' ()).mpr rfl
  rw [ofStrict?, Instant.text]
  split
  · next years =>
    simp [strictDate_text years, passed, strictClock_clockText t.fits stop, utc, read]
  · next years => simp [strictDate_text_eq_none years]

theorem ofStrict?_numericText (t : Instant) :
    ofStrict? t.numericText = if 0 ≤ t.date.year ∧ t.date.year ≤ 9999 then some t else none :=
  ofStrict?_text (by decide) (fun c head => by cases head; decide) t

/-! ## Time stamps and identifiers -/

theorem eq_cons_of_expect {c : Char} {s rest : List Char} (h : expect c s = some rest) :
    s = c :: rest := by
  cases s with
  | nil => cases h
  | cons head tail =>
    rw [expect] at h
    split at h
    · next same =>
      cases h
      rw [same]
    · cases h

/-- Four digits and a hyphen start a strict date. -/
theorem shape_of_strictDate {s rest : List Char} {d : Date} (h : strictDate s = some (d, rest)) :
    ∃ year tail, s = year ++ '-' :: tail ∧ year.length = 4 ∧ ∀ c ∈ year, c.isDigit = true := by
  simp only [strictDate, bind, Option.bind_eq_some_iff] at h
  obtain ⟨⟨_, behind⟩, read, tail, hyphen, _⟩ := h
  obtain ⟨year, rfl, long, digits, _⟩ := Text.exists_of_fixedNat read
  obtain rfl : behind = '-' :: tail := eq_cons_of_expect hyphen
  exact ⟨year, tail, rfl, long, digits⟩

theorem ne_of_isDigit {c : Char} (digit : c.isDigit = true) : c ≠ '\x7b' ∧ c.toLower ≠ 'u' := by
  simp only [Char.isDigit, Bool.and_eq_true, decide_eq_true_eq] at digit
  have small : c.toNat ≤ 57 := digit.2
  constructor
  · rintro rfl
    exact absurd small (by decide)
  · have lower : c.toLower = c :=
      dif_neg fun upper => absurd (Nat.le_trans upper.1 small) (by decide)
    rw [lower]
    rintro rfl
    exact absurd small (by decide)

/-- No text is both a strict time stamp and an identifier. -/
theorem ofText?_eq_none_of_ofStrict? {s : List Char} {t : Instant} (h : ofStrict? s = some t) :
    Uuid.ofText? s = none := by
  obtain ⟨_, _, _, _, ⟨readDate, _, _, _⟩, _⟩ := ofStrict?_eq_some_iff.mp h
  obtain ⟨year, tail, rfl, long, digits⟩ := shape_of_strictDate readDate
  have hyphen : '-' ∈ (year ++ '-' :: tail).take 8 := by simp [List.take_append, long]
  refine Uuid.ofText?_eq_none (fun c head => ne_of_isDigit ?_) hyphen (by decide)
  cases year with
  | nil => cases long
  | cons first rest =>
    cases head
    exact digits _ List.mem_cons_self

/-- Nor is the text of an instant an identifier, whatever its year. -/
theorem ofText?_numericText (t : Instant) : Uuid.ofText? t.numericText = none := by
  have read := ofStrict?_numericText t
  split at read
  · exact ofText?_eq_none_of_ofStrict? read
  · next years =>
    -- The text starts with the sign of the year.
    rw [Instant.numericText, Instant.text, Date.text, Date.yearText, if_neg years]
    split
    · exact Uuid.ofText?_eq_none (by simp) List.mem_cons_self (by decide)
    · exact Uuid.ofText?_eq_none (by simp) List.mem_cons_self (by decide)

end BoundQuery.Time
