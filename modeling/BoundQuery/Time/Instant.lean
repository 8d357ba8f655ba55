import BoundQuery.Time.Date

/-!
# Instants

An instant is a UTC date, a second of that day and nanoseconds. Nanoseconds from a full second
up belong to a leap second, which stands behind the last second of any minute.
-/

namespace BoundQuery

/-- The nanoseconds fit the second of the day; a full second more of them only in a leap second. -/
def FitsSecond (second nano : Nat) : Prop :=
  second < 86400 ∧ (nano < 1000000000 ∨ second % 60 = 59 ∧ nano < 2000000000)

instance (second nano : Nat) : Decidable (FitsSecond second nano) :=
  inferInstanceAs (Decidable (_ ∧ _))

/-- A point in time in UTC. -/
structure Instant where
  date : Date
  second : Nat
  nano : Nat
  fits : FitsSecond second nano
deriving DecidableEq, Repr

namespace Instant

instance : Inhabited Instant := ⟨⟨Date.epoch, 0, 0, by decide⟩⟩

/-- The instant on a date, if the second and nanoseconds fit. -/
def ofParts? (date : Date) (second nano : Nat) : Option Instant :=
  if fits : FitsSecond second nano then some ⟨date, second, nano, fits⟩ else none

/-- The instant so many seconds after the start of 1970. -/
def ofUnix? (seconds : Int) (nano : Nat) : Option Instant := do
  let date ← Date.ofDayNumber? (seconds / 86400)
  ofParts? date (seconds % 86400).toNat nano

/-- The seconds from the start of 1970, leap seconds not counted. -/
def unixSeconds (t : Instant) : Int := t.date.dayNumber * 86400 + t.second

/-- The instant of a local time that is `offset` seconds ahead of UTC, by less than a day. -/
def ofLocal? (date : Date) (second nano : Nat) (offset : Int) : Option Instant := do
  let utc := (second : Int) - offset
  if utc < 0 then ofParts? (← date.previous?) (utc + 86400).toNat nano
  else if 86400 ≤ utc then ofParts? (← date.next?) (utc - 86400).toNat nano
  else ofParts? date utc.toNat nano

/-- A fraction of a second in the fewest of 0, 3, 6 or 9 digits that lose nothing. -/
def fractionText (nano : Nat) : List Char :=
  if nano = 0 then []
  else if nano % 1000000 = 0 then '.' :: Text.padded 3 (nano / 1000000)
  else if nano % 1000 = 0 then '.' :: Text.padded 6 (nano / 1000)
  else '.' :: Text.padded 9 nano

/-- The time of day; a leap second is second 60. -/
def clockText (second nano : Nat) : List Char :=
  Text.padded 2 (second / 3600) ++ ':' :: (Text.padded 2 (second / 60 % 60) ++
    ':' :: (Text.padded 2 (second % 60 + nano / 1000000000) ++ fractionText (nano % 1000000000)))

/-- The instant as a date, `T`, a time of day and the mark of its zone. -/
def text (zone : String) (t : Instant) : List Char :=
  t.date.text ++ 'T' :: (clockText t.second t.nano ++ zone.toList)

/-- The text with a numeric zone. -/
def numericText (t : Instant) : List Char := t.text "+00:00"

/-- The text with `Z` for the zone. -/
def zuluText (t : Instant) : List Char := t.text "Z"

end Instant

end BoundQuery
