import BoundQuery.Json.Reader

/-!
# Embedded JSON texts

A value may be given as a JSON text of its own, in an object that has only one member, the text
under a marking key. An object that starts with that key and is anything else is refused; behind
another key the mark is a key like any other. Each text starts anew with how deep it may nest.
-/

namespace BoundQuery.Json

/-- The key that marks an embedded text. -/
def embeddedKey : String := "$serde_json::private::RawValue"

mutual
/-- Puts what `read` makes of it in the place of each embedded text. -/
def expand (read : String → Option Json) : Json → Option Json
  | array items => (expandItems read items).map array
  | object [] => some (object [])
  | object ((key, v) :: members) =>
    if key = embeddedKey then
      match v, members with
      | string text, [] => read text
      | _, _ => none
    else
      match expand read v, expandMembers read members with
      | some v, some members => some (object ((key, v) :: members))
      | _, _ => none
  | other => some other

def expandItems (read : String → Option Json) : List Json → Option (List Json)
  | [] => some []
  | item :: items =>
    match expand read item, expandItems read items with
    | some item, some items => some (item :: items)
    | _, _ => none

def expandMembers (read : String → Option Json) :
    List (String × Json) → Option (List (String × Json))
  | [] => some []
  | (key, v) :: members =>
    match expand read v, expandMembers read members with
    | some v, some members => some ((key, v) :: members)
    | _, _ => none
end

/-- Reads a whole text and the texts embedded in it; `fuel` bounds how deep they are embedded. -/
def readEmbedded : Nat → String → Option Json
  | 0, _ => none
  | fuel + 1, text => (ofSource? text).bind (expand (readEmbedded fuel))

/-- Reads a whole text, members in the order of the text. A text is longer than any that is
embedded in it, so the fuel is enough. -/
def ofEmbedded? (text : String) : Option Json := readEmbedded (text.length + 1) text

/-- The canonical form of a value with its embedded texts read. -/
def resolved? (v : Json) : Option Json := (expand ofEmbedded? v).map canonical

/-- Reads a whole text as a canonical value. -/
def ofText? (text : String) : Option Json := (ofSource? text).bind resolved?

end BoundQuery.Json
