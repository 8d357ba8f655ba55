import BoundQuery.Toml
import BoundQuery.Text.Hex
import BoundQuery.Time.Date

/-!
# TOML numbers, booleans, dates and times

Each reader takes a whole word. Digits may be parted by single underscores; a decimal integer
has no leading zero; only plain integers take a base mark, and those take no sign.
-/

namespace BoundQuery.Toml

/-- The digits of a word, with a single underscore allowed between two of them. -/
def parted (isDigit : Char → Bool) : List Char → Option (List Char)
  | [] => none
  | [c] => if isDigit c then some [c] else none
  | c :: '_' :: rest => if isDigit c then (parted isDigit rest).map (c :: ·) else none
  | c :: rest => if isDigit c then (parted isDigit rest).map (c :: ·) else none

/-- Digits without a leading zero. -/
def wholePart (s : List Char) : Option (List Char) :=
  match parted Char.isDigit s with
  | some ('0' :: _ :: _) => none
  | digits => digits

/-- A sign, true for minus, and the word behind it. -/
def splitSign : List Char → Bool × List Char
  | '-' :: rest => (true, rest)
  | '+' :: rest => (false, rest)
  | s => (false, s)

/-- The digits that belong to a base mark. -/
def baseDigit? (base : Nat) (c : Char) : Bool :=
  match Text.hexValue? c with
  | some d => decide (d.val < base)
  | none => false

/-- The number that digits write in a base. -/
def ofBase (base : Nat) (digits : List Char) : Nat :=
  digits.foldl (fun n c => n * base + ((Text.hexValue? c).map Fin.val).getD 0) 0

def based (base : Nat) (s : List Char) : Option Toml :=
  (parted (baseDigit? base) s).map fun digits => integer (ofBase base digits)

/-- An integer in one of the four bases. -/
def integerWord? (s : List Char) : Option Toml :=
  match s with
  | '0' :: 'x' :: rest => based 16 rest
  | '0' :: 'o' :: rest => based 8 rest
  | '0' :: 'b' :: rest => based 2 rest
  | _ =>
    let (negative, body) := splitSign s
    (wholePart body).map fun digits =>
      let n : Int := Text.natOfDigits digits
      integer (if negative then -n else n)

/-- The exponent of a float behind its mark. -/
def exponentPart (s : List Char) : Option Int :=
  let (negative, body) := splitSign s
  (parted Char.isDigit body).map fun digits =>
    let n : Int := Text.natOfDigits digits
    if negative then -n else n

def isExponentMark (c : Char) : Bool := c == 'e' || c == 'E'

/-- A float of digits. -/
def finiteFloat (negative : Bool) (d : Decimal) : Toml :=
  match Binary64.ofDecimal negative d with
  | .finite x => float (.finite x)
  | _ => hugeFloat

/-- A float: a fraction or an exponent behind an integer, infinity, or no number. -/
def floatWord? (s : List Char) : Option Toml :=
  let (negative, body) := splitSign s
  if body = ['i', 'n', 'f'] then some (float (.infinite negative))
  else if body = ['n', 'a', 'n'] then some (float .nan)
  else
    let mantissa := body.takeWhile fun c => !isExponentMark c
    let tail := body.drop mantissa.length
    let wholeText := mantissa.takeWhile (· != '.')
    let fractionText := mantissa.drop wholeText.length
    do
      let whole ← wholePart wholeText
      let fraction ← match fractionText with
        | [] => some []
        | _ :: rest => parted Char.isDigit rest
      let exponent ← match tail with
        | [] => if fractionText = [] then none else some 0
        | _ :: rest => exponentPart rest
      some (finiteFloat negative (Decimal.ofParts whole fraction exponent))

def expect (c : Char) : List Char → Option (List Char)
  | [] => none
  | head :: rest => if head = c then some rest else none

/-- A date of the calendar at the head of a word. -/
def datePart (s : List Char) : Option (List Char) := do
  let (year, s) ← Text.fixedNat 4 s
  let (month, s) ← Text.fixedNat 2 (← expect '-' s)
  let (day, s) ← Text.fixedNat 2 (← expect '-' s)
  if IsCivil year month day then some s else none

/-- The seconds of a time, which may be missing, and their fraction. -/
def secondsPart (s : List Char) : Option (List Char) :=
  match s with
  | ':' :: rest => do
    let (second, rest) ← Text.fixedNat 2 rest
    if 60 < second then none
    else match rest with
      | '.' :: rest =>
        let (digits, rest) := Text.spanDigits rest
        if digits = [] then none else some rest
      | _ => some rest
  | _ => some s

/-- A time of day at the head of a word. -/
def timePart (s : List Char) : Option (List Char) := do
  let (hour, s) ← Text.fixedNat 2 s
  let (minute, s) ← Text.fixedNat 2 (← expect ':' s)
  if 23 < hour ∨ 59 < minute then none else secondsPart s

/-- A zone that ends a word, or nothing. -/
def isZone (s : List Char) : Bool :=
  match s with
  | [] | ['Z'] | ['z'] => true
  | sign :: rest =>
    if sign = '+' ∨ sign = '-' then
      match (do
        let (hour, rest) ← Text.fixedNat 2 rest
        let (minute, rest) ← Text.fixedNat 2 (← expect ':' rest)
        some (hour, minute, rest)) with
      | some (hour, minute, []) => decide (hour ≤ 23 ∧ minute ≤ 59)
      | _ => false
    else false

/-- A date, a time, or both with a `T` or a blank between and a zone behind. -/
def dateTimeWord? (s : List Char) : Option Toml :=
  match datePart s with
  | some [] => some dateTime
  | some (mark :: rest) =>
    if mark = 'T' ∨ mark = 't' ∨ mark = ' ' then
      match timePart rest with
      | some zone => if isZone zone then some dateTime else none
      | none => none
    else none
  | none =>
    match timePart s with
    | some [] => some dateTime
    | _ => none

/-- The value of a word that is no string. -/
def ofWord? (s : List Char) : Option Toml :=
  if s = ['t', 'r', 'u', 'e'] then some (boolean true)
  else if s = ['f', 'a', 'l', 's', 'e'] then some (boolean false)
  else (integerWord? s).or ((floatWord? s).or (dateTimeWord? s))

/-- The characters of such a word. -/
def isWordChar (c : Char) : Bool :=
  c.isAlphanum || c == '_' || c == '+' || c == '-' || c == '.' || c == ':'

/-- Splits off a word. A blank and a digit behind a full date go on with its time. -/
def spanWord (s : List Char) : List Char × List Char :=
  let word := s.takeWhile isWordChar
  let rest := s.drop word.length
  match datePart word, rest with
  | some [], ' ' :: c :: tail =>
    if c.isDigit then
      let time := (c :: tail).takeWhile isWordChar
      (word ++ ' ' :: time, (c :: tail).drop time.length)
    else (word, rest)
  | _, _ => (word, rest)

end BoundQuery.Toml
