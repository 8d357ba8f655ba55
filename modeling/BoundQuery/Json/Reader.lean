import BoundQuery.Json
import BoundQuery.Number.Scaled
import BoundQuery.Text.Hex

/-!
# Reading JSON text

The grammar of RFC 8259 with containers nested at most 127 deep. A number with a fraction or an
exponent is a double, as is an integer beyond 64 bits and minus zero; doubles are read by scaling,
and one that is too large is refused. Half of a surrogate pair is refused as well.
-/

namespace BoundQuery.Json

def isBlank (c : Char) : Bool := c == ' ' || c == '\n' || c == '\t' || c == '\r'

def skipBlanks (s : List Char) : List Char := s.dropWhile isBlank

/-- The character a one-letter escape stands for. -/
def plainEscape? : Char → Option Char
  | '"' => some '"'
  | '\\' => some '\\'
  | '/' => some '/'
  | 'b' => some '\x08'
  | 'f' => some '\x0c'
  | 'n' => some '\n'
  | 'r' => some '\r'
  | 't' => some '\t'
  | _ => none

/-- A UTF-16 unit of four hexadecimal digits. -/
def unit? (s : List Char) : Option (Nat × List Char) :=
  if (s.take 4).length = 4 then (Text.hexNat? (s.take 4)).map fun n => (n, s.drop 4) else none

/-- The character of an escape by units, of two units for those beyond U+FFFF. -/
def unitEscape? (s : List Char) : Option (Char × List Char) := do
  let (high, s) ← unit? s
  if 0xD800 ≤ high ∧ high < 0xDC00 then
    match s with
    | '\\' :: 'u' :: s =>
      let (low, s) ← unit? s
      if 0xDC00 ≤ low ∧ low < 0xE000 then
        some (Char.ofNat (0x10000 + (high - 0xD800) * 1024 + (low - 0xDC00)), s)
      else none
    | _ => none
  else if 0xDC00 ≤ high ∧ high < 0xE000 then none
  else some (Char.ofNat high, s)

/-- One character of a string and the text behind it. -/
def stringChar? : List Char → Option (Char × List Char)
  | [] => none
  | '\\' :: 'u' :: s => unitEscape? s
  | '\\' :: c :: s => (plainEscape? c).map fun d => (d, s)
  | c :: s => if c.toNat < 32 ∨ c = '\\' then none else some (c, s)

/-- The characters of a string up to its closing quote; `fuel` bounds their number. -/
def stringBody : Nat → List Char → Option (List Char × List Char)
  | 0, _ => none
  | _ + 1, '"' :: s => some ([], s)
  | fuel + 1, s => do
    let (c, s) ← stringChar? s
    let (cs, s) ← stringBody fuel s
    some (c :: cs, s)

/-- A string behind its opening quote. -/
def stringTail (s : List Char) : Option (String × List Char) :=
  (stringBody s.length s).map fun (cs, s) => (String.ofList cs, s)

/-- The digits before the point: a zero alone or digits that start with none. -/
def wholeDigits (s : List Char) : Option (List Char × List Char) :=
  match s with
  | '0' :: c :: rest => if c.isDigit then none else some (['0'], c :: rest)
  | _ =>
    let (digits, rest) := Text.spanDigits s
    if digits = [] then none else some (digits, rest)

/-- The fraction of a number, point included; none if there is no point. -/
def fractionDigits (s : List Char) : Option (Option (List Char) × List Char) :=
  match s with
  | '.' :: rest =>
    let (digits, rest) := Text.spanDigits rest
    if digits = [] then none else some (some digits, rest)
  | _ => some (none, s)

def isExponentMark : List Char → Bool
  | c :: _ => c == 'e' || c == 'E'
  | [] => false

/-- An integer by its sign and digits: exact if it fits, else a double. -/
def ofInteger? (negative : Bool) (digits : List Char) : Option Json :=
  let n := Text.natOfDigits digits
  let exact := if negative then (if n = 0 then none else WideInt.ofInt? (-(n : Int)))
    else WideInt.ofInt? n
  match exact with
  | some i => some (integer i)
  | none => ((Decimal.leading digits [] 0).scaled? negative).map number

/-- The magnitude of a number behind its sign. -/
def magnitude (negative : Bool) (s : List Char) : Option (Json × List Char) := do
  let (whole, s) ← wholeDigits s
  let (fraction, s) ← fractionDigits s
  if fraction.isNone ∧ isExponentMark s = false then
    (ofInteger? negative whole).map fun v => (v, s)
  else
    let (exponent, s) ← Binary64.readExponent s
    let decimal := Decimal.leading whole (fraction.getD []) exponent
    (decimal.scaled? negative).map fun x => (number x, s)

def literal (word : String) (v : Json) (s : List Char) : Option (Json × List Char) :=
  let cs := word.toList
  if s.take cs.length = cs then some (v, s.drop cs.length) else none

/-- A value that is no container. -/
def scalar (s : List Char) : Option (Json × List Char) :=
  match s with
  | '"' :: rest => (stringTail rest).map fun (text, rest) => (string text, rest)
  | '-' :: rest => magnitude true rest
  | 'n' :: _ => literal "null" null s
  | 't' :: _ => literal "true" (bool true) s
  | 'f' :: _ => literal "false" (bool false) s
  | _ => magnitude false s

/-- Items with commas between them up to a closing mark; `fuel` bounds their number. -/
def commaSeparated {α : Type} (item : List Char → Option (α × List Char)) (close : Char) :
    Nat → List Char → Option (List α × List Char)
  | 0, _ => none
  | fuel + 1, s => do
    let (x, s) ← item (skipBlanks s)
    match skipBlanks s with
    | [] => none
    | c :: s =>
      if c = close then some ([x], s)
      else if c = ',' then do
        let (xs, s) ← commaSeparated item close fuel s
        some (x :: xs, s)
      else none

/-- The items of a container behind its opening mark. -/
def enclosed {α : Type} (item : List Char → Option (α × List Char)) (close : Char)
    (s : List Char) : Option (List α × List Char) :=
  match skipBlanks s with
  | [] => none
  | c :: rest =>
    if c = close then some ([], rest) else commaSeparated item close (c :: rest).length (c :: rest)

/-- A key, a colon and a value. -/
def member (value : List Char → Option (Json × List Char)) (s : List Char) :
    Option ((String × Json) × List Char) :=
  match s with
  | '"' :: rest => do
    let (key, rest) ← stringTail rest
    match skipBlanks rest with
    | ':' :: rest =>
      let (v, rest) ← value (skipBlanks rest)
      some ((key, v), rest)
    | _ => none
  | _ => none

/-- A value whose containers are nested at most `depth` deep. -/
def value : Nat → List Char → Option (Json × List Char)
  | 0 => scalar
  | depth + 1 => fun s =>
    match s with
    | '[' :: rest => (enclosed (value depth) ']' rest).map fun (items, rest) => (array items, rest)
    | '\x7b' :: rest =>
      (enclosed (member (value depth)) '\x7d' rest).map fun (members, rest) => (object members, rest)
    | _ => scalar s

/-- How deep containers may be nested. -/
def maxDepth : Nat := 127

/-- Reads a whole text, members in the order of the text. -/
def ofSource? (text : String) : Option Json :=
  match value maxDepth (skipBlanks text.toList) with
  | some (v, rest) => if skipBlanks rest = [] then some v else none
  | none => none

end BoundQuery.Json
