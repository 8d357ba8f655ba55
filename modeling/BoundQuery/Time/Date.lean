import BoundQuery.Text.Digits

/-!
# Calendar dates

The proleptic Gregorian calendar with a year zero, for the years -262143 to 262142. A date is
moved by single days and counted from 1970-01-01.
-/

namespace BoundQuery

def isLeapYear (year : Int) : Bool :=
  year % 4 == 0 && (year % 100 != 0 || year % 400 == 0)

/-- The number of days of a month of the year. -/
def monthLength (year : Int) : Nat → Nat
  | 2 => if isLeapYear year then 29 else 28
  | 4 | 6 | 9 | 11 => 30
  | _ => 31

/-- The year, month and day name a date in range. -/
def IsCivil (year : Int) (month day : Nat) : Prop :=
  (-262143 ≤ year ∧ year ≤ 262142) ∧ (1 ≤ month ∧ month ≤ 12) ∧
    (1 ≤ day ∧ day ≤ monthLength year month)

instance (year : Int) (month day : Nat) : Decidable (IsCivil year month day) :=
  inferInstanceAs (Decidable (_ ∧ _ ∧ _))

/-- A day of the calendar. -/
structure Date where
  year : Int
  month : Nat
  day : Nat
  civil : IsCivil year month day
deriving DecidableEq, Repr

namespace Date

/-- The date with the given numbers, if there is one. -/
def ofCivil? (year : Int) (month day : Nat) : Option Date :=
  if civil : IsCivil year month day then some ⟨year, month, day, civil⟩ else none

def epoch : Date := ⟨1970, 1, 1, by decide⟩

instance : Inhabited Date := ⟨epoch⟩

/-- The day after, unless it is out of range. -/
def next? (d : Date) : Option Date :=
  if d.day < monthLength d.year d.month then ofCivil? d.year d.month (d.day + 1)
  else if d.month < 12 then ofCivil? d.year (d.month + 1) 1
  else ofCivil? (d.year + 1) 1 1

/-- The day before, unless it is out of range. -/
def previous? (d : Date) : Option Date :=
  if 1 < d.day then ofCivil? d.year d.month (d.day - 1)
  else if 1 < d.month then ofCivil? d.year (d.month - 1) (monthLength d.year (d.month - 1))
  else ofCivil? (d.year - 1) 12 31

/-- The days from 0001-01-01 to the first day of the year. -/
def daysBeforeYear (year : Int) : Int :=
  let past := year - 1
  365 * past + past / 4 - past / 100 + past / 400

/-- The days of the year before the first day of the month. -/
def daysBeforeMonth (year : Int) (month : Nat) : Nat :=
  (List.range (month - 1)).foldl (fun days m => days + monthLength year (m + 1)) 0

/-- The number of the day, counted from 1970-01-01. -/
def dayNumber (d : Date) : Int :=
  daysBeforeYear d.year + daysBeforeMonth d.year d.month + d.day - 1 - 719162

/-- Finds the month that holds the `rest`-th day after its own first day. -/
def monthOfDay (year : Int) : List Nat → Nat → Option (Nat × Nat)
  | [], _ => none
  | month :: months, rest =>
    if rest < monthLength year month then some (month, rest + 1)
    else monthOfDay year months (rest - monthLength year month)

/-- The date with the given number. The guess of the year is off by one at most. -/
def ofDayNumber? (number : Int) : Option Date := do
  let days := number + 719162
  let guess := days * 400 / 146097 + 1
  let year :=
    if days < daysBeforeYear guess then guess - 1
    else if daysBeforeYear (guess + 1) ≤ days then guess + 1
    else guess
  let (month, day) ←
    monthOfDay year [1, 2, 3, 4, 5, 6, 7, 8, 9, 10, 11, 12] (days - daysBeforeYear year).toNat
  ofCivil? year month day

/-- Four digits, or a sign and four digits at least where the year has no four digits. -/
def yearText (year : Int) : List Char :=
  if 0 ≤ year ∧ year ≤ 9999 then Text.padded 4 year.natAbs
  else (if year < 0 then '-' else '+') :: Text.padded 4 year.natAbs

/-- The date as year, month and day with hyphens between. -/
def text (d : Date) : List Char :=
  yearText d.year ++ '-' :: (Text.padded 2 d.month ++ '-' :: Text.padded 2 d.day)

end Date

end BoundQuery
