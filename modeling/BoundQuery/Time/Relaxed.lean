import BoundQuery.Time.Strict
import BoundQuery.Text.Blank

/-!
# Relaxed reading of dates and time stamps

Blanks may stand before numbers and around the marks between them, numbers may have fewer
digits, and a signed year any number of them. The zone may be `UTC`, and its hours and minutes
may be set apart by colons and blanks or by nothing.
-/

namespace BoundQuery.Time

open Text (dropBlanks isBlank boundedNat readNat fixedNat)

/-- A year: up to four digits, or a sign and any number of them. -/
def relaxedYear (s : List Char) : Option (Int × List Char) :=
  match dropBlanks s with
  | '-' :: rest => (readNat rest).map fun (n, rest) => (-(n : Int), rest)
  | '+' :: rest => (readNat rest).map fun (n, rest) => ((n : Int), rest)
  | s => (boundedNat 4 s).map fun (n, rest) => ((n : Int), rest)

/-- One or two digits, blanks before them allowed. -/
def relaxedField (s : List Char) : Option (Nat × List Char) := boundedNat 2 (dropBlanks s)

/-- A mark between fields, blanks before it allowed. -/
def relaxedMark (c : Char) (s : List Char) : Option (List Char) := expect c (dropBlanks s)

def relaxedDate (s : List Char) : Option (Date × List Char) := do
  let (year, s) ← relaxedYear s
  let s ← relaxedMark '-' s
  let (month, s) ← relaxedField s
  let s ← relaxedMark '-' s
  let (day, s) ← relaxedField s
  let date ← Date.ofCivil? year month day
  some (date, s)

def relaxedClock (s : List Char) : Option ((Nat × Nat) × List Char) := do
  let (hour, s) ← relaxedField s
  let s ← relaxedMark ':' s
  let (minute, s) ← relaxedField s
  let s ← relaxedMark ':' s
  let (second, s) ← relaxedField s
  let (nano, s) ← fraction s
  let time ← clock hour minute second nano
  some (time, s)

/-- The name `UTC` in any case. -/
def utcName : List Char → Option (List Char)
  | a :: b :: c :: rest =>
    if [a.toLower, b.toLower, c.toLower] = ['u', 't', 'c'] then some rest else none
  | _ => none

/-- A zone and what stands behind it. -/
def relaxedZone (s : List Char) : Option (Int × List Char) :=
  match utcName s with
  | some rest => some (0, rest)
  | none =>
    match s with
    | 'Z' :: rest | 'z' :: rest => some (0, rest)
    | _ => do
      let (negative, s) ← zoneSign s
      let (hours, s) ← fixedNat 2 s
      let (minutes, s) ← fixedNat 2 (s.dropWhile fun c => c == ':' || isBlank c)
      let offset ← zoneSeconds negative hours minutes
      some (offset, s)

/-- Reads a whole text as a relaxed date. -/
def ofRelaxedDate? (s : List Char) : Option Date := do
  let (date, rest) ← relaxedDate s
  if dropBlanks rest = [] then some date else none

/-- Reads a whole text as a relaxed time stamp. -/
def ofRelaxed? (s : List Char) : Option Instant := do
  let (date, s) ← relaxedDate s
  let mark :: s := s | none
  guard (isTimeMark mark)
  let ((second, nano), s) ← relaxedClock s
  let (offset, rest) ← relaxedZone (dropBlanks s)
  guard (dropBlanks rest = [])
  Instant.ofLocal? date second nano offset

end BoundQuery.Time
