import BoundQuery.Config.Files
import BoundQuery.Table
import BoundQuery.Text.Blank
import BoundQuery.Text.Alphanumeric

/-!
# Environment files

An environment file assigns variables line by line. A variable that is set already keeps its
value. A line goes on over line ends while a quote is open. Values know two kinds of quotes,
escapes, and the substitution of variables.

A process has variables whose values are bytes. A value that is not UTF-8 counts as not set, for the
environment file as well.
-/

namespace BoundQuery

/-- Variables and their values. -/
abbrev Environment := Table String String

/-- The variables a process is started with. -/
abbrev ProcessVariables := Table String ByteArray

/-- The variables of a process whose values are texts. -/
def Environment.ofProcess (process : ProcessVariables) : Environment :=
  ⟨process.keys.filterMap fun name => ((process.find? name).bind String.fromUTF8?).map (name, ·)⟩

/-- Why an environment file cannot be read. -/
inductive EnvFileError where
  /-- A text that is no assignment, and the place where that shows. -/
  | unparsable (line : String) (index : Nat)
  | notUtf8
  | fault (why : ReadFault)
deriving DecidableEq, Repr

def EnvFileError.message : EnvFileError → String
  | unparsable line index =>
    "Error parsing line: '" ++ line ++ "', error at line index: " ++ index.repr
  | notUtf8 => "stream did not contain valid UTF-8"
  | fault why => why.message

namespace EnvFile

/-- How the loading of an environment file ends early. -/
inductive Stop where
  /-- What is wrong with the file is reported. -/
  | failed (e : EnvFileError)
  | panicked
deriving DecidableEq, Repr

/-- How many bytes a text takes in UTF-8. -/
def byteLength (s : List Char) : Nat := s.foldr (fun c n => c.utf8Size + n) 0

/-! ## Lines -/

/-- Cuts a file behind each line feed. -/
def splitBytes : List UInt8 → List (List UInt8)
  | [] => []
  | b :: bytes =>
    if b = 10 then [b] :: splitBytes bytes
    else match splitBytes bytes with
      | [] => [[b]]
      | line :: lines => (b :: line) :: lines

/-- The text of a line of bytes. -/
def decode (line : List UInt8) : Except EnvFileError (List Char) :=
  match String.fromUTF8? ⟨line.toArray⟩ with
  | some text => .ok text.toList
  | none => .error .notUtf8

/-- Where a scan over a line stands. -/
inductive Scan where
  | bare
  /-- Right behind a blank, where a comment may start. -/
  | blank
  | escape
  | weak
  | weakEscape
  | strong
  | strongEscape
deriving DecidableEq, Repr

namespace Scan

def ofBareChar : Char → Scan
  | '\\' => escape
  | '"' => weak
  | '\'' => strong
  | _ => bare

/-- The state behind a character. Behind a blank a second blank is an ordinary character. -/
def next (state : Scan) (c : Char) : Scan :=
  match state with
  | bare =>
    if Text.isBlank c && c != '\n' && c != '\r' then blank else ofBareChar c
  | blank => ofBareChar c
  | escape => bare
  | weak => if c = '\\' then weakEscape else if c = '"' then bare else weak
  | weakEscape => weak
  | strong => if c = '\\' then strongEscape else if c = '\'' then bare else strong
  | strongEscape => strong

/-- Scans a line; gives the text before a comment if one starts, and else the last state. -/
def line (state : Scan) : List Char → Except (List Char) Scan
  | [] => .ok state
  | c :: rest =>
    if state = blank ∧ c = '#' then .error []
    else match line (state.next c) rest with
      | .ok last => .ok last
      | .error before => .error (c :: before)

end Scan

/-- A line without its line end. -/
def withoutLineEnd (s : List Char) : List Char :=
  match s.reverse with
  | '\n' :: '\r' :: rest => rest.reverse
  | '\n' :: rest => rest.reverse
  | _ => s

/-- Joins lines while a quote, an escape or a blank is open at their end; `pending` is the text
joined so far. The first failure ends the list. -/
def logicalLines (state : Scan) (pending : List Char) :
    List (Except EnvFileError (List Char)) → List (Except EnvFileError (List Char))
  | [] =>
    if state = .bare then [] else [.error (.unparsable (String.ofList pending) (byteLength pending))]
  | .error e :: _ => [.error e]
  | .ok text :: lines =>
    let joined := pending ++ text
    if (Text.dropBlanks joined).head? = some '#' then .ok [] :: logicalLines .bare [] lines
    else match state.line text with
      | .ok .bare => .ok (withoutLineEnd joined) :: logicalLines .bare [] lines
      | .ok state => logicalLines state joined lines
      | .error before => .ok (pending ++ before) :: logicalLines .bare [] lines

/-! ## Values -/

/-- Where the reading of a value stands; `quoted` is true inside weak quotes. -/
inductive Mode where
  | plain (quoted : Bool)
  | strong
  | escape (quoted : Bool)
  /-- In the name of a variable. -/
  | name (quoted : Bool) (name : List Char)
  /-- In the name of a variable in braces. -/
  | bracedName (quoted : Bool) (name : List Char)
  /-- Behind the value, where only blanks and a comment may stand. -/
  | ended
deriving DecidableEq, Repr

/-- What stands for a name: the value of the variable, or nothing if it is not set. A name is
compared with the head of an assignment `NAME=VALUE`, and what follows it and an equals sign
stands for it, so a name with an equals sign in it may reach into the value. -/
def substitute (env : Environment) (name : List Char) : List Char :=
  let assigned := name.takeWhile (· != '=')
  match env.find? (String.ofList assigned) with
  | some value => ((name ++ ['=']).isPrefixOf? (assigned ++ '=' :: value.toList)).getD []
  | none => []

/-- What an escaped character stands for. -/
def unescape? (c : Char) : Option Char :=
  if c = 'n' then some '\n'
  else if c = '\\' ∨ c = '\'' ∨ c = '"' ∨ c = '$' ∨ c = ' ' then some c
  else none

/-- The characters a character adds and the mode behind it. The character behind the name of a
variable is taken as it is. -/
def readChar? (env : Environment) (mode : Mode) (c : Char) : Option (List Char × Mode) :=
  match mode with
  | .ended => if c = ' ' ∨ c = '\t' then some ([], .ended) else none
  | .escape quoted => (unescape? c).map fun d => ([d], .plain quoted)
  | .strong => if c = '\'' then some ([], .plain false) else some ([c], .strong)
  | .name quoted name =>
    if Text.isAlphanumeric c then some ([], .name quoted (name ++ [c]))
    else if c = '\x7b' ∧ name = [] then some ([], .bracedName quoted [])
    else if c = '$' then some (substitute env name, .name quoted [])
    else some (substitute env name ++ [c], .plain quoted)
  | .bracedName quoted name =>
    if c = '\x7d' then some (substitute env name, .plain quoted)
    else some ([], .bracedName quoted (name ++ [c]))
  | .plain quoted =>
    if c = '$' then some ([], .name quoted [])
    else if c = '\\' then some ([], .escape quoted)
    else if c = '"' then some ([], .plain (!quoted))
    else if quoted then some ([c], .plain true)
    else if c = '\'' then some ([], .strong)
    else if c = ' ' ∨ c = '\t' then some ([], .ended)
    else some ([c], .plain false)

/-- What the end of the value adds, unless something is still open. -/
def endValue? (env : Environment) : Mode → Option (List Char)
  | .plain false => some []
  | .escape false => some []
  | .ended => some []
  | .name false name => some (substitute env name)
  | _ => none

/-- Reads a value from its `index`-th character on. A failure gives the index of the character
that does not fit, or none if the value ends too early. -/
def readValue (env : Environment) (mode : Mode) (index : Nat) :
    List Char → Except (Option Nat) (List Char)
  | [] =>
    match endValue? env mode with
    | some last => .ok last
    | none => .error none
  | c :: rest =>
    if mode = .ended ∧ c = '#' then .ok []
    else match readChar? env mode c with
      | none => .error (some index)
      | some (added, mode) => (readValue env mode (index + 1) rest).map (added ++ ·)

/-- The value that a whole text stands for. -/
def value (env : Environment) (s : List Char) : Except EnvFileError String :=
  match readValue env (.plain false) 0 s with
  | .ok cs => .ok (String.ofList cs)
  | .error place => .error (.unparsable (String.ofList s) (place.getD (byteLength s - 1)))

/-! ## Assignments -/

def isKeyStart (c : Char) : Bool := c.isAlpha || c == '_'

def isKeyChar (c : Char) : Bool := c.isAlphanum || c == '_' || c == '.'

/-- The name at the head of a text. -/
def key? (s : List Char) : Option (List Char × List Char) :=
  match s with
  | c :: _ => if isKeyStart c then some (s.takeWhile isKeyChar, s.dropWhile isKeyChar) else none
  | [] => none

/-- The text behind an equals sign. -/
def equals? : List Char → Option (List Char)
  | '=' :: rest => some rest
  | _ => none

/-- Splits an assignment into its name and the text of its value. A failure gives the rest at
which it shows. `export` may stand before the name, or be the name. -/
def splitAssignment (s : List Char) : Except (List Char) (String × List Char) :=
  match key? s with
  | none => .error s
  | some (name, rest) =>
    let rest := Text.dropBlanks rest
    match equals? rest with
    | some text => .ok (String.ofList name, Text.dropBlanks text)
    | none =>
      if name = "export".toList then
        match key? rest with
        | none => .error rest
        | some (name, rest) =>
          let rest := Text.dropBlanks rest
          match equals? rest with
          | some text => .ok (String.ofList name, Text.dropBlanks text)
          | none => .error rest
      else .error rest

/-- Reads a line: nothing, or a variable and its value. -/
def assignment (env : Environment) (whole : List Char) :
    Except EnvFileError (Option (String × String)) :=
  let trimmed := Text.dropTrailingBlanks whole
  let body := Text.dropBlanks trimmed
  if body = [] ∨ body.head? = some '#' then .ok none
  else match splitAssignment body with
    | .error rest =>
      .error (.unparsable (String.ofList whole) (byteLength trimmed - byteLength rest))
    | .ok (name, text) =>
      if text = [] ∨ text.head? = some '#' then .ok (some (name, ""))
      else (value env text).map fun v => some (name, v)

/-- Sets a variable that is not set yet. -/
def setNew (env : Environment) (name value : String) : Environment :=
  if (env.find? name).isSome then env else env.insert name value

/-- No variable can hold a null character: to set one that is not set yet to such a value is a
panic. -/
def setPanics (env : Environment) (name value : String) : Bool :=
  (env.find? name).isNone && value.toList.contains '\x00'

/-- Carries out the assignments of lines in order. -/
def loadLines (env : Environment) :
    List (Except EnvFileError (List Char)) → Except Stop Environment
  | [] => .ok env
  | .error e :: _ => .error (.failed e)
  | .ok text :: lines =>
    match assignment env text with
    | .error e => .error (.failed e)
    | .ok none => loadLines env lines
    | .ok (some (name, v)) =>
      if setPanics env name v then .error .panicked else loadLines (setNew env name v) lines

/-- The bytes without a byte order mark at their head. -/
def withoutMark : List UInt8 → List UInt8
  | 0xEF :: 0xBB :: 0xBF :: rest => rest
  | bytes => bytes

/-- The lines that are read. Of a line that a fault cuts off, nothing is used. -/
def readLines (content : FileBytes) : List (Except EnvFileError (List Char)) :=
  let lines := splitBytes (withoutMark content.bytes.toList)
  match content.fault? with
  | none => lines.map decode
  | some why =>
    (lines.filter fun line => line.getLast? = some 10).map decode ++ [.error (.fault why)]

/-- The logical lines of a file. -/
def lines (content : FileBytes) : List (Except EnvFileError (List Char)) :=
  logicalLines .bare [] (readLines content)

/-- The environment after the assignments of a file. -/
def load (env : Environment) (content : FileBytes) : Except Stop Environment :=
  loadLines env (lines content)

end EnvFile

end BoundQuery
