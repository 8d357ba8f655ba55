import BoundQuery.Time.Instant

/-!
# Strict reading of time stamps

The grammar of RFC 3339: every field has its full width, a fraction may be given, and a zone
must be. A blank may stand for the `T`, and U+2212 for the minus sign of the zone.
-/

namespace BoundQuery.Time

/-- The digits of a fraction of a second as nanoseconds; from the tenth on they are dropped. -/
def nanosOfDigits (digits : List Char) : Nat :=
  let kept := digits.take 9
  Text.natOfDigits kept * Nat.pow 10 (9 - kept.length)

/-- A point and at least one digit, or nothing. -/
def fraction (s : List Char) : Option (Nat × List Char) :=
  match s with
  | '.' :: rest =>
    let (digits, rest) := Text.spanDigits rest
    if digits = [] then none else some (nanosOfDigits digits, rest)
  | _ => some (0, s)

/-- The rest behind an expected character. -/
def expect (c : Char) : List Char → Option (List Char)
  | [] => none
  | head :: rest => if head = c then some rest else none

/-- A sign: true for minus. -/
def zoneSign : List Char → Option (Bool × List Char)
  | '+' :: rest => some (false, rest)
  | '-' :: rest => some (true, rest)
  | '\u2212' :: rest => some (true, rest)
  | _ => none

/-- A zone of hours and minutes as seconds, if it is less than a day. -/
def zoneSeconds (negative : Bool) (hours minutes : Nat) : Option Int :=
  if hours < 24 ∧ minutes < 60 then
    let seconds : Int := (hours * 3600 + minutes * 60 : Nat)
    some (if negative then -seconds else seconds)
  else none

/-- The second of the day and the nanoseconds of a time of day; second 60 is the leap second. -/
def clock (hour minute second nano : Nat) : Option (Nat × Nat) :=
  if hour < 24 ∧ minute < 60 ∧ second ≤ 60 then
    if second = 60 then some (hour * 3600 + minute * 60 + 59, 1000000000 + nano)
    else some (hour * 3600 + minute * 60 + second, nano)
  else none

/-- A date of four, two and two digits. -/
def strictDate (s : List Char) : Option (Date × List Char) := do
  let (year, s) ← Text.fixedNat 4 s
  let s ← expect '-' s
  let (month, s) ← Text.fixedNat 2 s
  let s ← expect '-' s
  let (day, s) ← Text.fixedNat 2 s
  let date ← Date.ofCivil? year month day
  some (date, s)

/-- A time of day of two digits each, with its fraction. -/
def strictClock (s : List Char) : Option ((Nat × Nat) × List Char) := do
  let (hour, s) ← Text.fixedNat 2 s
  let s ← expect ':' s
  let (minute, s) ← Text.fixedNat 2 s
  let s ← expect ':' s
  let (second, s) ← Text.fixedNat 2 s
  let (nano, s) ← fraction s
  let time ← clock hour minute second nano
  some (time, s)

/-- A zone that ends the text: `Z` or a sign, hours and minutes with a colon. -/
def strictZone (s : List Char) : Option Int :=
  match s with
  | ['Z'] | ['z'] => some 0
  | _ => do
    let (negative, s) ← zoneSign s
    let (hours, s) ← Text.fixedNat 2 s
    let s ← expect ':' s
    let (minutes, s) ← Text.fixedNat 2 s
    if s = [] then zoneSeconds negative hours minutes else none

/-- The mark between date and time. -/
def isTimeMark (c : Char) : Bool := c == 'T' || c == 't' || c == ' '

/-- Reads a whole text as a strict time stamp. -/
def ofStrict? (s : List Char) : Option Instant := do
  let (date, s) ← strictDate s
  let mark :: s := s | none
  guard (isTimeMark mark)
  let ((second, nano), s) ← strictClock s
  let offset ← strictZone s
  Instant.ofLocal? date second nano offset

end BoundQuery.Time
