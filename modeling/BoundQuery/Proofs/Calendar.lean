import BoundQuery.Time.Instant

/-!
# Days and instants as numbers

The calendar is moved by single days; counted in days since 1970, the day after is one more and the
day before one less. So taking the offset of a zone off a local time is a subtraction, across the
ends of days, months and years.

Results:
1. `Date.dayNumber_eq_iff`: a number of a day belongs to one year, month and day.
2. `Date.next?_eq_some_iff` / `Date.previous?_eq_some_iff`: the neighbours of a day by their numbers.
3. `Instant.ofLocal?_eq_some_iff`: the instant of a local time by its seconds since 1970.
4. `Instant.exists_ofLocal?`: within the calendar, every zone of whole minutes leads to an instant.
-/

namespace BoundQuery

/-! ## Years and months in days -/

def yearLength (year : Int) : Nat := if isLeapYear year then 366 else 365

theorem one_le_monthLength (year : Int) (month : Nat) : 1 ≤ monthLength year month := by
  fun_cases monthLength year month <;> decide

theorem monthLength_le (year : Int) (month : Nat) : monthLength year month ≤ 31 := by
  fun_cases monthLength year month <;> decide

namespace Date

theorem daysBeforeYear_succ (year : Int) :
    daysBeforeYear (year + 1) = daysBeforeYear year + yearLength year := by
  by_cases leap : isLeapYear year = true
  · rw [yearLength, if_pos leap]
    simp only [isLeapYear, Bool.and_eq_true, Bool.or_eq_true, beq_iff_eq, bne_iff_ne] at leap
    simp only [daysBeforeYear]
    omega
  · rw [yearLength, if_neg leap]
    simp only [isLeapYear, Bool.and_eq_true, Bool.or_eq_true, beq_iff_eq, bne_iff_ne] at leap
    simp only [daysBeforeYear]
    omega

theorem daysBeforeYear_add_le {year later : Int} (h : year < later) :
    daysBeforeYear year + yearLength year ≤ daysBeforeYear later := by
  rw [← daysBeforeYear_succ]
  simp only [daysBeforeYear]
  omega

theorem daysBeforeMonth_succ (year : Int) {month : Nat} (h : 1 ≤ month) :
    daysBeforeMonth year (month + 1) = daysBeforeMonth year month + monthLength year month := by
  obtain ⟨past, rfl⟩ : ∃ past, month = past + 1 := ⟨month - 1, by omega⟩
  simp only [daysBeforeMonth, Nat.add_sub_cancel, List.range_succ, List.foldl_append,
    List.foldl_cons, List.foldl_nil]

theorem daysBeforeMonth_add_le (year : Int) {month later : Nat} (positive : 1 ≤ month)
    (h : month < later) :
    daysBeforeMonth year month + monthLength year month ≤ daysBeforeMonth year later := by
  induction later with
  | zero => omega
  | succ last ih =>
    rw [daysBeforeMonth_succ year (by omega)]
    rcases Nat.lt_succ_iff_lt_or_eq.mp h with earlier | rfl
    · exact Nat.le_add_right_of_le (ih earlier)
    · exact Nat.le_refl _

/-- The months fill the year. -/
theorem daysBeforeMonth_thirteen (year : Int) : daysBeforeMonth year 13 = yearLength year := by
  rw [yearLength]
  split <;> simp [daysBeforeMonth, List.range, List.range.loop, monthLength, *]

theorem day_le_yearLength {year : Int} {month day : Nat} (months : 1 ≤ month ∧ month ≤ 12)
    (days : day ≤ monthLength year month) : daysBeforeMonth year month + day ≤ yearLength year := by
  have whole := daysBeforeMonth_add_le year months.1 (Nat.lt_succ_of_le months.2)
  rw [daysBeforeMonth_thirteen] at whole
  omega

/-! ## Days by their numbers -/

theorem ofCivil?_eq_some_iff {year : Int} {month day : Nat} {d : Date} :
    ofCivil? year month day = some d ↔ d.year = year ∧ d.month = month ∧ d.day = day := by
  constructor
  · intro h
    rw [ofCivil?] at h
    split at h
    · cases h
      exact ⟨rfl, rfl, rfl⟩
    · cases h
  · rintro ⟨rfl, rfl, rfl⟩
    rw [ofCivil?, dif_pos d.civil]

/-- No other day has the number of a year, month and day, whether or not the year is in range. -/
theorem dayNumber_eq_iff (d : Date) {year : Int} {month day : Nat} (months : 1 ≤ month ∧ month ≤ 12)
    (days : 1 ≤ day ∧ day ≤ monthLength year month) :
    d.dayNumber = daysBeforeYear year + daysBeforeMonth year month + day - 1 - 719162 ↔
      d.year = year ∧ d.month = month ∧ d.day = day := by
  obtain ⟨dYear, dMonth, dDay, _, dMonths, dDays⟩ := d
  constructor
  · intro equal
    simp only [dayNumber] at equal ⊢
    have inYear := day_le_yearLength months days.2
    have dInYear := day_le_yearLength dMonths dDays.2
    obtain rfl : dYear = year := by
      rcases Int.lt_trichotomy dYear year with less | same | greater
      · have := daysBeforeYear_add_le less
        omega
      · exact same
      · have := daysBeforeYear_add_le greater
        omega
    obtain rfl : dMonth = month := by
      rcases Nat.lt_trichotomy dMonth month with less | same | greater
      · have := daysBeforeMonth_add_le dYear dMonths.1 less
        omega
      · exact same
      · have := daysBeforeMonth_add_le dYear months.1 greater
        omega
    exact ⟨rfl, rfl, by omega⟩
  · rintro ⟨rfl, rfl, rfl⟩
    rfl

theorem dayNumber_inj {d e : Date} : d.dayNumber = e.dayNumber ↔ d = e := by
  refine (dayNumber_eq_iff d e.civil.2.1 e.civil.2.2).trans ⟨?_, ?_⟩
  · rintro ⟨year, month, day⟩
    cases d
    cases e
    simp_all
  · rintro rfl
    exact ⟨rfl, rfl, rfl⟩

theorem next?_eq_some_iff {d e : Date} : d.next? = some e ↔ e.dayNumber = d.dayNumber + 1 := by
  obtain ⟨_, months, days⟩ := d.civil
  rw [next?]
  split
  · next inMonth =>
    rw [ofCivil?_eq_some_iff, ← dayNumber_eq_iff e months ⟨by omega, inMonth⟩, dayNumber.eq_1 d]
    omega
  · split
    · next inYear =>
      have month := daysBeforeMonth_succ d.year months.1
      rw [ofCivil?_eq_some_iff, ← dayNumber_eq_iff e ⟨by omega, by omega⟩
        ⟨by omega, one_le_monthLength _ _⟩, dayNumber.eq_1 d, month]
      omega
    · have december : d.month = 12 := by omega
      have last : monthLength d.year d.month = 31 := by rw [december]; rfl
      have first : daysBeforeMonth (d.year + 1) 1 = 0 := rfl
      have month := daysBeforeMonth_succ d.year months.1
      have year := daysBeforeYear_succ d.year
      rw [last, december, daysBeforeMonth_thirteen] at month
      rw [ofCivil?_eq_some_iff, ← dayNumber_eq_iff e ⟨by omega, by omega⟩
        ⟨by omega, one_le_monthLength _ _⟩, dayNumber.eq_1 d, december, first]
      omega

theorem previous?_eq_some_iff {d e : Date} :
    d.previous? = some e ↔ e.dayNumber = d.dayNumber - 1 := by
  obtain ⟨_, months, days⟩ := d.civil
  rw [previous?]
  split
  · next inMonth =>
    rw [ofCivil?_eq_some_iff, ← dayNumber_eq_iff e months ⟨by omega, by omega⟩, dayNumber.eq_1 d]
    omega
  · split
    · next inYear =>
      obtain ⟨past, last⟩ : ∃ past, d.month = past + 1 := ⟨d.month - 1, by omega⟩
      have month := daysBeforeMonth_succ d.year (show 1 ≤ past by omega)
      rw [ofCivil?_eq_some_iff, ← dayNumber_eq_iff e ⟨by omega, by omega⟩
        ⟨one_le_monthLength _ _, Nat.le_refl _⟩, dayNumber.eq_1 d, last, month, Nat.add_sub_cancel]
      omega
    · have january : d.month = 1 := by omega
      have month := daysBeforeMonth_succ (d.year - 1) (show 1 ≤ 12 by decide)
      have year := daysBeforeYear_succ (d.year - 1)
      have last : monthLength (d.year - 1) 12 = 31 := rfl
      have first : daysBeforeMonth d.year 1 = 0 := rfl
      rw [daysBeforeMonth_thirteen, last] at month
      rw [Int.sub_add_cancel] at year
      rw [ofCivil?_eq_some_iff, ← dayNumber_eq_iff e ⟨by decide, by decide⟩
        ⟨by decide, Nat.le_of_eq last.symm⟩, dayNumber.eq_1 d, january, first]
      omega

theorem exists_previous? {d : Date} (later : -262143 < d.year) : ∃ e, d.previous? = some e := by
  obtain ⟨years, months, days⟩ := d.civil
  rw [previous?]
  split
  · exact ⟨_, dif_pos ⟨years, months, by omega, by omega⟩⟩
  · split
    · exact ⟨_, dif_pos ⟨years, ⟨by omega, by omega⟩, one_le_monthLength _ _, Nat.le_refl _⟩⟩
    · exact ⟨_, dif_pos ⟨⟨by omega, by omega⟩, by decide, by decide, Nat.le_refl 31⟩⟩

theorem exists_next? {d : Date} (earlier : d.year < 262142) : ∃ e, d.next? = some e := by
  obtain ⟨years, months, days⟩ := d.civil
  rw [next?]
  split
  · exact ⟨_, dif_pos ⟨years, months, by omega, by omega⟩⟩
  · split
    · exact ⟨_, dif_pos ⟨years, ⟨by omega, by omega⟩, Nat.le_refl 1, one_le_monthLength _ _⟩⟩
    · exact ⟨_, dif_pos ⟨⟨by omega, by omega⟩, by decide, Nat.le_refl 1, one_le_monthLength _ _⟩⟩

end Date

/-! ## Instants by their seconds -/

namespace Instant

theorem ofParts?_eq_some_iff {date : Date} {second nano : Nat} {t : Instant} :
    ofParts? date second nano = some t ↔ t.date = date ∧ t.second = second ∧ t.nano = nano := by
  constructor
  · intro h
    rw [ofParts?] at h
    split at h
    · cases h
      exact ⟨rfl, rfl, rfl⟩
    · cases h
  · rintro ⟨rfl, rfl, rfl⟩
    rw [ofParts?, dif_pos t.fits]

/-- The offset is taken off the local time, whatever day that leads to. -/
theorem ofLocal?_eq_some_iff {date : Date} {second nano : Nat} {offset : Int} {t : Instant}
    (inDay : second < 86400) (inZone : -86400 < offset ∧ offset < 86400) :
    ofLocal? date second nano offset = some t ↔
      t.unixSeconds = date.dayNumber * 86400 + second - offset ∧ t.nano = nano := by
  have fits := t.fits.1
  have other (d : Date) : ofParts? d t.second t.nano = some t ↔ d = t.date := by
    rw [ofParts?_eq_some_iff]
    exact ⟨fun h => h.1.symm, fun h => ⟨h.symm, rfl, rfl⟩⟩
  rw [ofLocal?, unixSeconds]
  split
  · next before =>
    simp only [bind, Option.bind_eq_some_iff, ofParts?_eq_some_iff, Date.previous?_eq_some_iff]
    constructor
    · rintro ⟨day, number, rfl, second, nano⟩
      exact ⟨by omega, nano⟩
    · rintro ⟨seconds, nano⟩
      exact ⟨t.date, by omega, rfl, by omega, nano⟩
  · split
    · next after =>
      simp only [bind, Option.bind_eq_some_iff, ofParts?_eq_some_iff, Date.next?_eq_some_iff]
      constructor
      · rintro ⟨day, number, rfl, second, nano⟩
        exact ⟨by omega, nano⟩
      · rintro ⟨seconds, nano⟩
        exact ⟨t.date, by omega, rfl, by omega, nano⟩
    · simp only [ofParts?_eq_some_iff, ← Date.dayNumber_inj]
      constructor
      · rintro ⟨number, second, nano⟩
        exact ⟨by omega, nano⟩
      · rintro ⟨seconds, nano⟩
        exact ⟨by omega, by omega, nano⟩

/-- Whole minutes keep a leap second behind the last second of a minute. -/
theorem exists_ofLocal? {date : Date} {second nano : Nat} {offset : Int}
    (years : -262143 < date.year ∧ date.year < 262142) (fits : FitsSecond second nano)
    (inZone : -86400 < offset ∧ offset < 86400) (minutes : offset % 60 = 0) :
    ∃ t, ofLocal? date second nano offset = some t := by
  obtain ⟨inDay, inSecond⟩ := fits
  have parts (d : Date) {utc : Int} (range : 0 ≤ utc ∧ utc < 86400)
      (same : utc % 60 = (second : Int) % 60) : ∃ t, ofParts? d utc.toNat nano = some t :=
    ⟨_, dif_pos ⟨by omega, by omega⟩⟩
  simp only [ofLocal?]
  split
  · obtain ⟨day, before⟩ := Date.exists_previous? years.1
    rw [before]
    exact parts day ⟨by omega, by omega⟩ (by omega)
  · split
    · obtain ⟨day, after⟩ := Date.exists_next? years.2
      rw [after]
      exact parts day ⟨by omega, by omega⟩ (by omega)
    · exact parts date ⟨by omega, by omega⟩ (by omega)

end Instant

end BoundQuery
