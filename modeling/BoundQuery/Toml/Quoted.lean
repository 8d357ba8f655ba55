import BoundQuery.Text.Hex

/-!
# TOML strings

Four forms: on one line or several, with escapes or without. Of the control characters only the
tab may stand in a string, and line ends in those of several lines.
-/

namespace BoundQuery.Toml

/-- A character that may stand in any string and in comments. -/
def isPlain (c : Char) : Bool := c == '\t' || (decide (32 ≤ c.toNat) && c.toNat != 127)

def isBlank (c : Char) : Bool := c == ' ' || c == '\t'

def skipBlanks (s : List Char) : List Char := s.dropWhile isBlank

/-- The rest behind a line end. -/
def newline? : List Char → Option (List Char)
  | '\n' :: rest => some rest
  | '\r' :: '\n' :: rest => some rest
  | _ => none

/-- The character with the code that a number of hexadecimal digits give. -/
def codeEscape? (width : Nat) (s : List Char) : Option (Char × List Char) := do
  let head := s.take width
  guard (head.length = width)
  let code ← Text.hexNat? head
  if code.isValidChar then some (Char.ofNat code, s.drop width) else none

/-- What stands for an escape, behind the backslash. -/
def escape? : List Char → Option (Char × List Char)
  | '"' :: s => some ('"', s)
  | '\\' :: s => some ('\\', s)
  | 'b' :: s => some ('\x08', s)
  | 't' :: s => some ('\t', s)
  | 'n' :: s => some ('\n', s)
  | 'f' :: s => some ('\x0c', s)
  | 'r' :: s => some ('\r', s)
  | 'e' :: s => some ('\x1b', s)
  | 'x' :: s => codeEscape? 2 s
  | 'u' :: s => codeEscape? 4 s
  | 'U' :: s => codeEscape? 8 s
  | _ => none

/-- The characters of a string with escapes, up to its quote; `fuel` bounds their number. -/
def basicBody : Nat → List Char → Option (List Char × List Char)
  | 0, _ => none
  | _ + 1, [] => none
  | _ + 1, '"' :: s => some ([], s)
  | fuel + 1, '\\' :: s => do
    let (c, s) ← escape? s
    let (cs, s) ← basicBody fuel s
    some (c :: cs, s)
  | fuel + 1, c :: s =>
    if isPlain c then (basicBody fuel s).map fun (cs, s) => (c :: cs, s) else none

/-- The characters of a string without escapes, up to its quote. -/
def literalBody : List Char → Option (List Char × List Char)
  | [] => none
  | '\'' :: s => some ([], s)
  | c :: s => if isPlain c then (literalBody s).map fun (cs, s) => (c :: cs, s) else none

/-- Blanks and line ends, as a backslash at the end of a line skips them. -/
def skipLines : List Char → List Char
  | '\r' :: '\n' :: s => skipLines s
  | c :: s => if c = ' ' ∨ c = '\t' ∨ c = '\n' then skipLines s else c :: s
  | [] => []

/-- The end of a string of several lines: three quotes, of which up to two more belong to it. -/
def closing? (quote : Char) (s : List Char) : Option (List Char × List Char) :=
  let count := (s.takeWhile (· == quote)).length
  if count < 3 then none
  else
    let inside := min (count - 3) 2
    some (List.replicate inside quote, s.drop (inside + 3))

/-- The characters of several lines with escapes; `fuel` bounds their number. -/
def basicLines : Nat → List Char → Option (List Char × List Char)
  | 0, _ => none
  | fuel + 1, s =>
    match closing? '"' s with
    | some done => some done
    | none =>
      match s with
      | [] => none
      | '\\' :: rest =>
        match newline? (skipBlanks rest) with
        | some rest => basicLines fuel (skipLines rest)
        | none => do
          let (c, rest) ← escape? rest
          let (cs, rest) ← basicLines fuel rest
          some (c :: cs, rest)
      | '\r' :: '\n' :: rest =>
        (basicLines fuel rest).map fun (cs, rest) => ('\r' :: '\n' :: cs, rest)
      | c :: rest =>
        if isPlain c || c == '\n' then
          (basicLines fuel rest).map fun (cs, rest) => (c :: cs, rest)
        else none

/-- The characters of several lines without escapes; `fuel` bounds their number. -/
def literalLines : Nat → List Char → Option (List Char × List Char)
  | 0, _ => none
  | fuel + 1, s =>
    match closing? '\'' s with
    | some done => some done
    | none =>
      match s with
      | [] => none
      | '\r' :: '\n' :: rest =>
        (literalLines fuel rest).map fun (cs, rest) => ('\r' :: '\n' :: cs, rest)
      | c :: rest =>
        if isPlain c || c == '\n' then
          (literalLines fuel rest).map fun (cs, rest) => (c :: cs, rest)
        else none

def toText (result : Option (List Char × List Char)) : Option (String × List Char) :=
  result.map fun (cs, rest) => (String.ofList cs, rest)

/-- A string on one line. -/
def lineString (s : List Char) : Option (String × List Char) :=
  match s with
  | '"' :: rest => toText (basicBody (rest.length + 1) rest)
  | '\'' :: rest => toText (literalBody rest)
  | _ => none

/-- A string in any form. A line end right behind three quotes is not part of it. -/
def anyString (s : List Char) : Option (String × List Char) :=
  match s with
  | '"' :: '"' :: '"' :: rest =>
    let body := (newline? rest).getD rest
    toText (basicLines (body.length + 1) body)
  | '\'' :: '\'' :: '\'' :: rest =>
    let body := (newline? rest).getD rest
    toText (literalLines (body.length + 1) body)
  | _ => lineString s

end BoundQuery.Toml
