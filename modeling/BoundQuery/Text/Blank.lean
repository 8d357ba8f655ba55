/-!
# Blank characters

The characters with the Unicode property White_Space. The zero-width space, the byte order mark
and the separators U+001C to U+001F do not have it.
-/

namespace BoundQuery.Text

/-- The ranges of White_Space, ends included. -/
def blankRanges : List (Nat × Nat) :=
  [(0x9, 0xD), (0x20, 0x20), (0x85, 0x85), (0xA0, 0xA0), (0x1680, 0x1680), (0x2000, 0x200A),
   (0x2028, 0x2029), (0x202F, 0x202F), (0x205F, 0x205F), (0x3000, 0x3000)]

def isBlank (c : Char) : Bool :=
  blankRanges.any fun range => range.1 ≤ c.toNat && c.toNat ≤ range.2

/-- No character of the text is other than blank; the empty text counts. -/
def allBlank (s : String) : Bool := s.toList.all isBlank

def dropBlanks (s : List Char) : List Char := s.dropWhile isBlank

/-- The text without the blanks at its end. -/
def dropTrailingBlanks (s : List Char) : List Char := (s.reverse.dropWhile isBlank).reverse

example : isBlank '\u200b' = false ∧ isBlank '\u3000' = true := by decide

end BoundQuery.Text
