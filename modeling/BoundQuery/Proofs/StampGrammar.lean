import BoundQuery.Proofs.TimeText

/-!
# The grammar of strict time stamps

RFC 3339 as a grammar over whole texts: what a time stamp is made of and which local time and offset
it states, with no word on how it is read. The reader goes from left to right, one field after
another, and hands on what stands behind. It finds exactly the texts of the grammar.

Results:
1. `strictDate_iff` / `strictZone_iff`: a date at the head of a text, a zone that is all of it.
2. `exists_clockText` / `ClockText.strictClock_append`: a time of day, whose fraction ends only
   where no digit follows.
3. `reads_iff` / `isStamp_iff` / `names_iff`: time stamps and the instants they denote.
-/

namespace BoundQuery.Time

open Text (natOfDigits fixedNat)

/-! ## The grammar -/

/-- ASCII digits, as many as the width says, that write the number. -/
inductive Numeral (width : Nat) : List Char → Nat → Prop
  | intro {ds : List Char} : ds.length = width → (∀ c ∈ ds, c.isDigit = true) →
      Numeral width ds (natOfDigits ds)

/-- A day that the calendar has, as year, month and day. -/
inductive DateText : List Char → Date → Prop
  | intro {year month day : List Char} {n : Nat} {date : Date} : date.year = n →
      Numeral 4 year n → Numeral 2 month date.month → Numeral 2 day date.day →
      DateText (year ++ '-' :: (month ++ '-' :: day)) date

/-- Nanoseconds: nothing, or a point and digits, of which the first nine count. -/
inductive FractionText : List Char → Nat → Prop
  | none : FractionText [] 0
  | digits {ds : List Char} : ds ≠ [] → (∀ c ∈ ds, c.isDigit = true) →
      FractionText ('.' :: ds) (natOfDigits ((ds ++ List.replicate 9 '0').take 9))

/-- A time of day as it is written, where second 60 is a leap second. -/
structure TimeOfDay where
  hour : Nat
  minute : Nat
  second : Nat
  nano : Nat
  inDay : hour < 24 ∧ minute < 60 ∧ second ≤ 60

namespace TimeOfDay

/-- The second of the day; a leap second belongs to the one before. -/
def secondOfDay (time : TimeOfDay) : Nat :=
  time.hour * 3600 + time.minute * 60 + min time.second 59

/-- The nanoseconds, a full second more of them in a leap second. -/
def nanos (time : TimeOfDay) : Nat :=
  time.nano + if time.second = 60 then 1000000000 else 0

end TimeOfDay

inductive ClockText : List Char → TimeOfDay → Prop
  | intro {hour minute second part : List Char} {time : TimeOfDay} : Numeral 2 hour time.hour →
      Numeral 2 minute time.minute → Numeral 2 second time.second →
      FractionText part time.nano →
      ClockText (hour ++ ':' :: (minute ++ ':' :: (second ++ part))) time

/-- The sign of an offset, with the factor it stands for. -/
inductive SignMark : Char → Int → Prop
  | plus : SignMark '+' 1
  | hyphen : SignMark '-' (-1)
  | minus : SignMark '\u2212' (-1)

/-- The offset of a zone in seconds. -/
inductive ZoneText : List Char → Int → Prop
  | zulu : ZoneText ['Z'] 0
  | lower : ZoneText ['z'] 0
  | signed {mark : Char} {sign : Int} {hours minutes : List Char} {h m : Nat} :
      SignMark mark sign → Numeral 2 hours h → h < 24 → Numeral 2 minutes m → m < 60 →
      ZoneText (mark :: (hours ++ ':' :: minutes)) (sign * (h * 3600 + m * 60 : Nat))

/-- A date, a mark, a time of day and a zone, with nothing before or after. -/
inductive StampText : List Char → Date → TimeOfDay → Int → Prop
  | intro {day clock zone : List Char} {mark : Char} {date : Date} {time : TimeOfDay}
      {offset : Int} : DateText day date → mark ∈ ['T', 't', ' '] → ClockText clock time →
      ZoneText zone offset → StampText (day ++ mark :: (clock ++ zone)) date time offset

/-- The instant is the local time of a time stamp less the offset of its zone. -/
def Denotes (s : List Char) (t : Instant) : Prop :=
  ∃ date time offset, StampText s date time offset ∧
    t.unixSeconds = date.dayNumber * 86400 + time.secondOfDay - offset ∧ t.nano = time.nanos

/-! ## Numbers and marks -/

theorem exists_numeral {width n : Nat} {s rest : List Char}
    (h : fixedNat width s = some (n, rest)) : ∃ ds, s = ds ++ rest ∧ Numeral width ds n := by
  obtain ⟨ds, split, long, digits, rfl⟩ := Text.exists_of_fixedNat h
  exact ⟨ds, split, long, digits⟩

/-- A number with a mark behind it. -/
theorem exists_field {width n : Nat} {c : Char} {s behind rest : List Char}
    (read : fixedNat width s = some (n, behind)) (marked : expect c behind = some rest) :
    ∃ ds, s = ds ++ c :: rest ∧ Numeral width ds n := by
  obtain rfl := eq_cons_of_expect marked
  exact exists_numeral read

theorem Numeral.fixedNat_append {width n : Nat} {ds : List Char} (h : Numeral width ds n)
    (rest : List Char) : fixedNat width (ds ++ rest) = some (n, rest) := by
  obtain ⟨long, digits⟩ := h
  rw [fixedNat, List.take_left' long, List.drop_left' long,
    if_pos ⟨long, List.all_eq_true.mpr digits⟩]

theorem expect_cons (c : Char) (rest : List Char) : expect c (c :: rest) = some rest := if_pos rfl

theorem isTimeMark_iff {c : Char} : isTimeMark c = true ↔ c ∈ ['T', 't', ' '] := by
  simp [isTimeMark, or_assoc]

/-! ## Dates -/

theorem exists_dateText {s rest : List Char} {date : Date} (h : strictDate s = some (date, rest)) :
    ∃ text, s = text ++ rest ∧ DateText text date := by
  simp only [strictDate, bind, Option.bind_eq_some_iff] at h
  obtain ⟨⟨n, _⟩, readYear, _, hyphen, ⟨m, _⟩, readMonth, _, hyphen', ⟨d, _⟩, readDay, _, civil,
    same⟩ := h
  cases same
  obtain ⟨year, rfl, yearNumeral⟩ := exists_field readYear hyphen
  obtain ⟨month, rfl, monthNumeral⟩ := exists_field readMonth hyphen'
  obtain ⟨day, rfl, dayNumeral⟩ := exists_numeral readDay
  obtain ⟨sameYear, rfl, rfl⟩ := Date.ofCivil?_eq_some_iff.mp civil
  exact ⟨year ++ '-' :: (month ++ '-' :: day), by simp,
    .intro sameYear yearNumeral monthNumeral dayNumeral⟩

theorem DateText.strictDate_append {text : List Char} {date : Date} (h : DateText text date)
    (rest : List Char) : strictDate (text ++ rest) = some (date, rest) := by
  obtain ⟨sameYear, year, month, day⟩ := h
  have civil := Date.ofCivil?_eq_some_iff.mpr ⟨sameYear, rfl, rfl⟩
  simp [strictDate, expect_cons, year.fixedNat_append, month.fixedNat_append, day.fixedNat_append,
    civil]

/-- The reader takes a date off a text exactly if the text begins with one. -/
theorem strictDate_iff {s rest : List Char} {date : Date} :
    strictDate s = some (date, rest) ↔ ∃ text, s = text ++ rest ∧ DateText text date := by
  constructor
  · exact exists_dateText
  · rintro ⟨text, rfl, date⟩
    exact date.strictDate_append rest

/-! ## Times of day -/

/-- Digits that are not there count as zeros. -/
theorem nanosOfDigits_eq (ds : List Char) :
    nanosOfDigits ds = natOfDigits ((ds ++ List.replicate 9 '0').take 9) := by
  have zeros : (ds ++ List.replicate 9 '0').take 9 =
      ds.take 9 ++ List.replicate (9 - (ds.take 9).length) '0' := by
    rw [List.take_append, List.take_replicate, List.length_take]
    congr 2
    omega
  rw [zeros, natOfDigits, Nat.ofDigitChars_append, Nat.ofDigitChars_replicate_zero, Nat.mul_comm]
  rfl

theorem exists_fractionText {s rest : List Char} {nano : Nat}
    (h : fraction s = some (nano, rest)) :
    ∃ text, s = text ++ rest ∧ FractionText text nano := by
  unfold fraction at h
  split at h
  · next behind =>
    simp only at h
    split at h
    · cases h
    · next filled =>
      cases h
      rw [nanosOfDigits_eq]
      refine ⟨'.' :: (Text.spanDigits behind).1, ?_,
        .digits filled fun _ => Text.isDigit_of_mem_spanDigits⟩
      rw [List.cons_append, Text.spanDigits_append]
  · cases h
    exact ⟨[], rfl, .none⟩

theorem FractionText.fraction_append {text rest : List Char} {nano : Nat}
    (h : FractionText text nano) (stop : EndsNumber rest) :
    fraction (text ++ rest) = some (nano, rest) := by
  cases h with
  | none =>
    have nothing : fraction (Instant.fractionText 0 ++ rest) = some (0, rest) :=
      fraction_fractionText (by decide) stop
    exact nothing
  | digits filled all =>
    have split := Text.spanDigits_of_stop all fun c head => (stop c head).1
    simp [fraction, split, filled, nanosOfDigits_eq]

theorem clock_eq (time : TimeOfDay) :
    clock time.hour time.minute time.second time.nano = some (time.secondOfDay, time.nanos) := by
  rw [clock, if_pos time.inDay, TimeOfDay.secondOfDay, TimeOfDay.nanos]
  split
  · next leap =>
    rw [leap, Nat.add_comm time.nano]
    rfl
  · next plain =>
    have below : time.second ≤ 59 := Nat.le_of_lt_succ (Nat.lt_of_le_of_ne time.inDay.2.2 plain)
    rw [Nat.min_eq_left below, Nat.add_zero]

theorem exists_clockText {s rest : List Char} {second nano : Nat}
    (h : strictClock s = some ((second, nano), rest)) : ∃ text time,
      s = text ++ rest ∧ ClockText text time ∧ time.secondOfDay = second ∧ time.nanos = nano := by
  simp only [strictClock, bind, Option.bind_eq_some_iff] at h
  obtain ⟨⟨h, _⟩, readHour, _, colon, ⟨m, _⟩, readMinute, _, colon', ⟨s, _⟩, readSecond,
    ⟨part, _⟩, readFraction, read, civil, same⟩ := h
  cases same
  obtain ⟨hourText, rfl, hour⟩ := exists_field readHour colon
  obtain ⟨minuteText, rfl, minute⟩ := exists_field readMinute colon'
  obtain ⟨secondText, rfl, second'⟩ := exists_numeral readSecond
  obtain ⟨partText, rfl, nano'⟩ := exists_fractionText readFraction
  -- Numbers out of range are read as well; only the last step refuses them.
  have inDay : h < 24 ∧ m < 60 ∧ s ≤ 60 := by
    by_contra outside
    rw [clock, if_neg outside] at civil
    cases civil
  let time : TimeOfDay := ⟨h, m, s, part, inDay⟩
  have parts : some (time.secondOfDay, time.nanos) = some (second, nano) :=
    (clock_eq time).symm.trans civil
  cases parts
  exact ⟨_, time, by simp, .intro hour minute second' nano', rfl, rfl⟩

/-- A time of day is read where the text goes on with something that is no part of a number. -/
theorem ClockText.strictClock_append {text rest : List Char} {time : TimeOfDay}
    (h : ClockText text time) (stop : EndsNumber rest) :
    strictClock (text ++ rest) = some ((time.secondOfDay, time.nanos), rest) := by
  obtain ⟨hour, minute, second, part⟩ := h
  simp [strictClock, expect_cons, hour.fixedNat_append, minute.fixedNat_append,
    second.fixedNat_append, part.fraction_append stop, clock_eq]

/-! ## Zones -/

theorem zoneSign_iff {s rest : List Char} {negative : Bool} :
    zoneSign s = some (negative, rest) ↔
      ∃ mark, s = mark :: rest ∧ SignMark mark (if negative then -1 else 1) := by
  constructor
  · intro h
    unfold zoneSign at h
    split at h
    · cases h
      exact ⟨_, rfl, .plus⟩
    · cases h
      exact ⟨_, rfl, .hyphen⟩
    · cases h
      exact ⟨_, rfl, .minus⟩
    · cases h
  · rintro ⟨mark, rfl, sign⟩
    cases negative <;> cases sign <;> rfl

theorem zoneSeconds_iff {negative : Bool} {hours minutes : Nat} {offset : Int} :
    zoneSeconds negative hours minutes = some offset ↔ (hours < 24 ∧ minutes < 60) ∧
      offset = (if negative then -1 else 1) * (hours * 3600 + minutes * 60 : Nat) := by
  rw [zoneSeconds]
  split
  · next inDay => cases negative <;> simp [inDay, eq_comm]
  · next outside => simp [outside]

theorem zoneText_of_strictZone {s : List Char} {offset : Int} (h : strictZone s = some offset) :
    ZoneText s offset := by
  unfold strictZone at h
  split at h
  · cases h
    exact .zulu
  · cases h
    exact .lower
  · simp only [bind, Option.bind_eq_some_iff] at h
    obtain ⟨⟨negative, _⟩, readSign, ⟨h, _⟩, readHours, _, colon, ⟨m, _⟩, readMinutes, read⟩ := h
    split at read
    · next ended =>
      obtain ⟨mark, rfl, sign⟩ := zoneSign_iff.mp readSign
      obtain ⟨hoursText, rfl, hours⟩ := exists_field readHours colon
      obtain ⟨minutesText, rfl, minutes⟩ := exists_numeral readMinutes
      obtain ⟨⟨inDay, inHour⟩, rfl⟩ := zoneSeconds_iff.mp read
      subst ended
      rw [List.append_nil]
      exact .signed sign hours inDay minutes inHour
    · cases read

theorem ZoneText.strictZone_eq {s : List Char} {offset : Int} (h : ZoneText s offset) :
    strictZone s = some offset := by
  cases h with
  | zulu => rfl
  | lower => rfl
  | signed sign hours inDay minutes inHour =>
    have readMinutes := minutes.fixedNat_append []
    rw [List.append_nil] at readMinutes
    cases sign <;>
      simp [strictZone, zoneSign, hours.fixedNat_append, expect_cons, readMinutes, zoneSeconds_iff,
        inDay, inHour]

theorem strictZone_iff {s : List Char} {offset : Int} :
    strictZone s = some offset ↔ ZoneText s offset :=
  ⟨zoneText_of_strictZone, ZoneText.strictZone_eq⟩

/-- A zone begins with its mark or its sign. -/
theorem ZoneText.endsNumber {s : List Char} {offset : Int} (h : ZoneText s offset) :
    EndsNumber s := by
  intro c head
  rcases h with _ | _ | ⟨sign⟩
  · cases head
    decide
  · cases head
    decide
  · cases head
    cases sign <;> decide

/-! ## Time stamps -/

/-- What a text is read as is what the grammar makes of it. -/
theorem reads_iff {s : List Char} {date : Date} {second nano : Nat} {offset : Int} :
    Reads s date second nano offset ↔ ∃ time, StampText s date time offset ∧
      time.secondOfDay = second ∧ time.nanos = nano := by
  constructor
  · rintro ⟨readDate, marked, readClock, readZone⟩
    obtain ⟨dateText, rfl, date⟩ := strictDate_iff.mp readDate
    obtain ⟨clockText, time, rfl, clock, seconds, nanos⟩ := exists_clockText readClock
    exact ⟨time, .intro date (isTimeMark_iff.mp marked) clock (strictZone_iff.mp readZone),
      seconds, nanos⟩
  · rintro ⟨time, ⟨date, mark, clock, zone⟩, rfl, rfl⟩
    exact .intro (strictDate_iff.mpr ⟨_, rfl, date⟩) (isTimeMark_iff.mpr mark)
      (clock.strictClock_append zone.endsNumber) (strictZone_iff.mpr zone)

theorem isStamp_iff {s : List Char} :
    IsStamp s ↔ ∃ date time offset, StampText s date time offset := by
  constructor
  · rintro ⟨date, second, nano, offset, reads⟩
    obtain ⟨time, stamp, _⟩ := reads_iff.mp reads
    exact ⟨date, time, offset, stamp⟩
  · rintro ⟨date, time, offset, stamp⟩
    exact ⟨date, _, _, offset, reads_iff.mpr ⟨time, stamp, rfl, rfl⟩⟩

theorem names_iff {s : List Char} {t : Instant} : Names s t ↔ Denotes s t := by
  constructor
  · rintro ⟨date, second, nano, offset, reads, instant⟩
    obtain ⟨time, stamp, rfl, rfl⟩ := reads_iff.mp reads
    exact ⟨date, time, offset, stamp, instant⟩
  · rintro ⟨date, time, offset, stamp, instant⟩
    exact ⟨date, _, _, offset, reads_iff.mpr ⟨time, stamp, rfl, rfl⟩, instant⟩

end BoundQuery.Time
