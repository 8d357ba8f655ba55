import BoundQuery.Toml.Scalar
import BoundQuery.Toml.Quoted

/-!
# Reading TOML documents

A document is read line by line into the entries of its root table. Arrays and inline tables may
go over line ends and end in a comma; they are nested at most 80 deep. A dotted key stays on one
line, also in an inline table, and has at most 80 parts.
-/

namespace BoundQuery.Toml

/-- A comment up to the end of its line; control characters may not stand in it. -/
def comment (s : List Char) : Option (List Char) :=
  let rest := s.dropWhile isPlain
  if rest = [] ∨ (newline? rest).isSome then some rest else none

/-- The end of a line, with blanks and a comment before it. -/
def lineEnd (s : List Char) : Option (List Char) :=
  match skipBlanks s with
  | [] => some []
  | '#' :: rest => (comment rest).map fun rest => (newline? rest).getD rest
  | s => newline? s

/-- Skips blanks, line ends and comments; `fuel` bounds their number. -/
def skipVoid : Nat → List Char → Option (List Char)
  | 0, s => some s
  | fuel + 1, s =>
    match skipBlanks s with
    | '#' :: rest =>
      match comment rest with
      | some rest => skipVoid fuel rest
      | none => none
    | s =>
      match newline? s with
      | some rest => skipVoid fuel rest
      | none => some s

/-- Skips all blanks, line ends and comments. -/
def skipAll (s : List Char) : Option (List Char) := skipVoid (s.length + 1) s

def isBareChar (c : Char) : Bool := c.isAlphanum || c == '_' || c == '-'

/-- One part of a key. -/
def keyPart (s : List Char) : Option (String × List Char) :=
  match s with
  | '"' :: _ | '\'' :: _ => lineString s
  | _ =>
    let name := s.takeWhile isBareChar
    if name = [] then none else some (String.ofList name, s.drop name.length)

/-- The parts of a dotted key, at most `fuel` of them, with the blanks behind it. -/
def keyParts : Nat → List Char → Option (List String × List Char)
  | 0, _ => none
  | fuel + 1, s => do
    let (part, s) ← keyPart (skipBlanks s)
    match skipBlanks s with
    | '.' :: rest =>
      let (parts, rest) ← keyParts fuel rest
      some (part :: parts, rest)
    | s => some ([part], s)

/-- How many parts a dotted key may have. -/
def maxKeyParts : Nat := 80

def key (s : List Char) : Option (List String × List Char) := keyParts maxKeyParts s

/-- A dotted key and its value; `gap` skips what may stand around the equals sign. -/
def keyValue (gap : List Char → Option (List Char))
    (value : List Char → Option (Toml × List Char)) (s : List Char) :
    Option ((List String × Toml) × List Char) := do
  let (path, s) ← key s
  match ← gap s with
  | '=' :: rest =>
    let (v, rest) ← value (← gap rest)
    some ((path, v), rest)
  | _ => none

/-- Items with commas between and perhaps one behind; `fuel` bounds their number. -/
def commaSeparated {α : Type} (item : List Char → Option (α × List Char)) (close : Char) :
    Nat → List Char → Option (List α × List Char)
  | 0, _ => none
  | fuel + 1, s => do
    let s ← skipAll s
    if s.head? = some close then some ([], s.tail)
    else
      let (x, s) ← item s
      let s ← skipAll s
      match s with
      | [] => none
      | c :: rest =>
        if c = close then some ([x], rest)
        else if c = ',' then do
          let (xs, rest) ← commaSeparated item close fuel rest
          some (x :: xs, rest)
        else none

/-- The table of entries written in braces. -/
def inlineTable (entries : List (List String × Toml)) : Option Toml :=
  (entries.foldlM (fun table entry => assign entry.2 entry.1 table) []).map (table .inlined)

/-- A value that is no container. -/
def scalar (s : List Char) : Option (Toml × List Char) :=
  match s with
  | '"' :: _ | '\'' :: _ => (anyString s).map fun (text, rest) => (string text, rest)
  | _ =>
    let (word, rest) := spanWord s
    (ofWord? word).map fun v => (v, rest)

/-- A value whose containers are nested at most `depth` deep. -/
def value : Nat → List Char → Option (Toml × List Char)
  | 0 => scalar
  | depth + 1 => fun s =>
    match s with
    | '[' :: rest =>
      (commaSeparated (value depth) ']' s.length rest).map fun (items, rest) => (array items, rest)
    | '\x7b' :: rest => do
      let (entries, rest) ← commaSeparated (keyValue skipAll (value depth)) '\x7d' s.length rest
      let v ← inlineTable entries
      some (v, rest)
    | _ => scalar s

/-- How deep arrays and inline tables may be nested. -/
def maxDepth : Nat := 80

/-- The entries read so far and the table that lines without a header go into. -/
structure Reading where
  root : Entries := []
  current : List String := []

/-- A line that opens a table. -/
def headerLine (state : Reading) (s : List Char) : Option (Reading × List Char) := do
  match s with
  | '[' :: rest =>
    let (path, rest) ← key rest
    match rest with
    | ']' :: ']' :: rest =>
      let root ← openElement path state.root
      some (⟨root, path⟩, ← lineEnd rest)
    | _ => none
  | _ =>
    let (path, rest) ← key s
    match rest with
    | ']' :: rest =>
      let root ← openTable path state.root
      some (⟨root, path⟩, ← lineEnd rest)
    | _ => none

/-- A line that stores a value. -/
def entryLine (state : Reading) (s : List Char) : Option (Reading × List Char) := do
  let ((path, v), rest) ← keyValue (fun s => some (skipBlanks s)) (value maxDepth) s
  let root ← within (assign v path) state.current state.root
  some ({ state with root := root }, ← lineEnd rest)

/-- One line of a document. -/
def line (state : Reading) (s : List Char) : Option (Reading × List Char) :=
  match skipBlanks s with
  | '[' :: rest => headerLine state rest
  | c :: rest =>
    if c = '#' ∨ c = '\n' ∨ c = '\r' then (lineEnd (c :: rest)).map fun rest => (state, rest)
    else entryLine state (c :: rest)
  | [] => some (state, [])

/-- Reads lines to the end of the text; `fuel` bounds their number. -/
def lines : Nat → Reading → List Char → Option Reading
  | _, state, [] => some state
  | 0, _, _ => none
  | fuel + 1, state, s =>
    match line state s with
    | some (state, rest) => lines fuel state rest
    | none => none

/-- The text without the byte order mark at its head. -/
def withoutMark (s : List Char) : List Char :=
  match s with
  | '\ufeff' :: rest => rest
  | _ => s

/-- The root table of a document, if the text is one. -/
def ofText? (text : String) : Option Entries :=
  (lines (text.length + 1) {} (withoutMark text.toList)).map Reading.root

end BoundQuery.Toml
