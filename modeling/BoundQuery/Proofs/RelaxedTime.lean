import BoundQuery.Proofs.TimeText
import BoundQuery.Time.Relaxed
import Mathlib.Data.List.TakeWhile

/-!
# Written dates and instants under the relaxed reading

The relaxed reading is the one that takes back every date and every instant: a year without four
digits is written with a sign, and that allows any number of digits. Blanks and short fields, which
it takes as well, do not occur in what is written.

Results:
1. `relaxedDate_text`: a date of any year in front of another text.
2. `ofRelaxedDate?_text` / `ofRelaxed?_zuluText`: whole texts, leap seconds included.
-/

namespace BoundQuery.Time

open Text (padded digits isBlank dropBlanks boundedNat readNat)

/-! ## Fields -/

theorem isBlank_of_isDigit {c : Char} (digit : c.isDigit = true) : isBlank c = false := by
  simp only [Char.isDigit, Bool.and_eq_true, decide_eq_true_eq] at digit
  have low : 48 ≤ c.toNat := digit.1
  have high : c.toNat ≤ 57 := digit.2
  by_contra blank
  simp only [isBlank, Text.blankRanges, List.any_cons, List.any_nil, Bool.not_eq_false,
    Bool.or_eq_true, Bool.and_eq_true, decide_eq_true_eq, Bool.false_eq_true, or_false] at blank
  omega

theorem dropBlanks_cons {c : Char} (noBlank : isBlank c = false) (rest : List Char) :
    dropBlanks (c :: rest) = c :: rest := by
  simp [dropBlanks, noBlank]

/-- A number starts with a digit. -/
theorem exists_padded_eq (width n : Nat) :
    ∃ c tail, padded width n = c :: tail ∧ c.isDigit = true := by
  cases shape : padded width n with
  | nil => exact absurd shape (by simp [padded, Text.digits_ne_nil])
  | cons c tail =>
    have member : c ∈ padded width n := by
      rw [shape]
      exact List.mem_cons_self
    exact ⟨c, tail, rfl, Text.isDigit_of_mem_padded member⟩

theorem dropBlanks_padded (width n : Nat) (rest : List Char) :
    dropBlanks (padded width n ++ rest) = padded width n ++ rest := by
  obtain ⟨c, tail, shape, digit⟩ := exists_padded_eq width n
  rw [shape]
  exact dropBlanks_cons (isBlank_of_isDigit digit) (tail ++ rest)

theorem boundedNat_padded {width n : Nat} (positive : 0 < width) (fits : n < Nat.pow 10 width)
    (rest : List Char) : boundedNat width (padded width n ++ rest) = some (n, rest) := by
  have long : (padded width n).length = width := Text.length_padded positive fits
  have all : (padded width n).takeWhile Char.isDigit = padded width n :=
    List.takeWhile_eq_self_iff.mpr fun _ => Text.isDigit_of_mem_padded
  have filled : padded width n ≠ [] := by
    obtain ⟨c, tail, shape, _⟩ := exists_padded_eq width n
    simp [shape]
  simp [boundedNat, List.take_left' long, all, filled, Text.natOfDigits_padded]

theorem readNat_padded (width n : Nat) {rest : List Char}
    (stop : ∀ c ∈ rest.head?, c.isDigit = false) :
    readNat (padded width n ++ rest) = some (n, rest) := by
  rw [readNat, Text.spanDigits_of_stop (fun _ => Text.isDigit_of_mem_padded) stop]
  obtain ⟨c, tail, shape, _⟩ := exists_padded_eq width n
  simp only [Text.natOfDigits_padded]
  rw [if_neg (by simp [shape])]

theorem relaxedField_padded {n : Nat} (fits : n < 100) (rest : List Char) :
    relaxedField (padded 2 n ++ rest) = some (n, rest) := by
  rw [relaxedField, dropBlanks_padded]
  exact boundedNat_padded (by decide) fits rest

theorem relaxedMark_cons {c : Char} (noBlank : isBlank c = false) (rest : List Char) :
    relaxedMark c (c :: rest) = some rest := by
  rw [relaxedMark, dropBlanks_cons noBlank, expect, if_pos rfl]

/-! ## Dates -/

theorem relaxedYear_of_isDigit {c : Char} (digit : c.isDigit = true) (tail : List Char) :
    relaxedYear (c :: tail) =
      (boundedNat 4 (c :: tail)).map fun (n, rest) => ((n : Int), rest) := by
  rw [relaxedYear, dropBlanks_cons (isBlank_of_isDigit digit)]
  split
  · next same =>
    cases same
    cases digit
  · next same =>
    cases same
    cases digit
  · rfl

theorem relaxedYear_yearText (year : Int) {rest : List Char}
    (stop : ∀ c ∈ rest.head?, c.isDigit = false) :
    relaxedYear (Date.yearText year ++ rest) = some (year, rest) := by
  unfold Date.yearText
  split
  · next years =>
    have read : boundedNat 4 (padded 4 year.natAbs ++ rest) = some (year.natAbs, rest) :=
      boundedNat_padded (by decide) (by show _ < 10000; omega) rest
    obtain ⟨c, tail, shape, digit⟩ := exists_padded_eq 4 year.natAbs
    rw [shape, List.cons_append] at read ⊢
    rw [relaxedYear_of_isDigit digit, read]
    exact congrArg (fun n => some (n, rest)) (show (year.natAbs : Int) = year by omega)
  · have read := readNat_padded 4 year.natAbs stop
    split
    · next below =>
      rw [relaxedYear, List.cons_append, dropBlanks_cons (by decide)]
      simp only [read, Option.map_some]
      exact congrArg (fun n => some (n, rest)) (show -(year.natAbs : Int) = year by omega)
    · next above =>
      rw [relaxedYear, List.cons_append, dropBlanks_cons (by decide)]
      simp only [read, Option.map_some]
      exact congrArg (fun n => some (n, rest)) (show (year.natAbs : Int) = year by omega)

/-- A date of any year is read back in front of any text. -/
theorem relaxedDate_text (d : Date) (rest : List Char) :
    relaxedDate (d.text ++ rest) = some (d, rest) := by
  obtain ⟨_, months, days⟩ := d.civil
  have inMonth : monthLength d.year d.month ≤ 31 := monthLength_le d.year d.month
  have hyphen (tail : List Char) : relaxedMark '-' ('-' :: tail) = some tail :=
    relaxedMark_cons (by decide) tail
  have year (tail : List Char) : relaxedYear (Date.yearText d.year ++ '-' :: tail) =
      some (d.year, '-' :: tail) := relaxedYear_yearText d.year (by simp)
  have month (tail : List Char) := relaxedField_padded (n := d.month) (by omega) tail
  have day := relaxedField_padded (n := d.day) (by omega) rest
  have read : Date.ofCivil? d.year d.month d.day = some d :=
    Date.ofCivil?_eq_some_iff.mpr ⟨rfl, rfl, rfl⟩
  simp [relaxedDate, Date.text, year, hyphen, month, day, read]

theorem ofRelaxedDate?_text (d : Date) : ofRelaxedDate? d.text = some d := by
  have read := relaxedDate_text d []
  rw [List.append_nil] at read
  simp only [ofRelaxedDate?, read, Option.bind_eq_bind, Option.bind_some]
  exact if_pos rfl

/-! ## Instants -/

theorem relaxedClock_clockText {second nano : Nat} (fits : FitsSecond second nano)
    {rest : List Char} (stop : EndsNumber rest) :
    relaxedClock (Instant.clockText second nano ++ rest) = some ((second, nano), rest) := by
  obtain ⟨inDay, inSecond⟩ := id fits
  have colon (tail : List Char) : relaxedMark ':' (':' :: tail) = some tail :=
    relaxedMark_cons (by decide) tail
  have hour (tail : List Char) := relaxedField_padded (n := second / 3600) (by omega) tail
  have minute (tail : List Char) := relaxedField_padded (n := second / 60 % 60) (by omega) tail
  have leap (tail : List Char) :=
    relaxedField_padded (n := second % 60 + nano / 1000000000) (by omega) tail
  have part : fraction (Instant.fractionText (nano % 1000000000) ++ rest) =
      some (nano % 1000000000, rest) := fraction_fractionText (by omega) stop
  simp [relaxedClock, Instant.clockText, colon, hour, minute, leap, part, clock_parts fits]

/-- An instant of any year is read back from its text in UTC. -/
theorem ofRelaxed?_zuluText (t : Instant) : ofRelaxed? t.zuluText = some t := by
  have date (tail : List Char) := relaxedDate_text t.date tail
  have stop : EndsNumber ['Z'] := fun c head => by cases head; decide
  have marked : guard (isTimeMark 'T' = true) = some () := (Option.guard_eq_some' ()).mpr rfl
  have ended : guard (dropBlanks [] = []) = some () := (Option.guard_eq_some' ()).mpr rfl
  have utc : relaxedZone (dropBlanks ['Z']) = some (0, []) := by decide
  have read : Instant.ofLocal? t.date t.second t.nano 0 = some t :=
    (Instant.ofLocal?_eq_some_iff t.fits.1 ⟨by decide, by decide⟩).mpr
      ⟨(Int.sub_zero _).symm, rfl⟩
  have zone : "Z".toList = ['Z'] := rfl
  rw [ofRelaxed?, Instant.zuluText, Instant.text, zone]
  simp only [date, Option.bind_eq_bind, Option.bind_some, marked,
    relaxedClock_clockText t.fits stop, utc, ended, read]

end BoundQuery.Time
