import BoundQuery.Json
import BoundQuery.Text.Hex

/-!
# Compact JSON text

No blanks are written. A string escapes the quote, the backslash and the characters below
U+0020, so a JSON text has no such character at all.

Main statement: `printable_write`.
-/

namespace BoundQuery.Json

/-- One character of a string as it is written. -/
def escape (c : Char) : List Char :=
  if c = '"' then ['\\', '"']
  else if c = '\\' then ['\\', '\\']
  else if c = '\x08' then ['\\', 'b']
  else if c = '\x0c' then ['\\', 'f']
  else if c = '\n' then ['\\', 'n']
  else if c = '\r' then ['\\', 'r']
  else if c = '\t' then ['\\', 't']
  else if c.toNat < 32 then
    ['\\', 'u', '0', '0', Text.hexChar (Fin.ofNat 16 (c.toNat / 16)),
      Text.hexChar (Fin.ofNat 16 c.toNat)]
  else [c]

def quoted (s : String) : List Char := '"' :: (s.toList.flatMap escape ++ ['"'])

mutual
def write : Json → List Char
  | null => ['n', 'u', 'l', 'l']
  | bool true => ['t', 'r', 'u', 'e']
  | bool false => ['f', 'a', 'l', 's', 'e']
  | integer i => Text.intDigits i.val
  | number x => x.json
  | string s => quoted s
  | array items => '[' :: (writeItems items ++ [']'])
  | object members => '\x7b' :: (writeMembers members ++ ['\x7d'])

def writeItems : List Json → List Char
  | [] => []
  | [item] => write item
  | item :: next :: items => write item ++ ',' :: writeItems (next :: items)

def writeMembers : List (String × Json) → List Char
  | [] => []
  | [(key, value)] => quoted key ++ ':' :: write value
  | (key, value) :: next :: members =>
    quoted key ++ ':' :: (write value ++ ',' :: writeMembers (next :: members))
end

/-- The compact text of a value. -/
def text (v : Json) : String := String.ofList (write v)

/-- No character of the text is below U+0020. -/
def Printable (s : List Char) : Prop := ∀ c ∈ s, 32 ≤ c.toNat

theorem printable_append {s t : List Char} (hs : Printable s) (ht : Printable t) :
    Printable (s ++ t) := by
  intro c h
  rcases List.mem_append.1 h with h | h
  · exact hs c h
  · exact ht c h

theorem printable_cons {c : Char} {s : List Char} (hc : 32 ≤ c.toNat) (hs : Printable s) :
    Printable (c :: s) := by
  intro d h
  rcases List.mem_cons.1 h with rfl | h
  · exact hc
  · exact hs d h

theorem printable_nil : Printable [] := by simp [Printable]

theorem printable_of_isDigit {s : List Char} (h : ∀ c ∈ s, c.isDigit = true) : Printable s := by
  intro c member
  have digit := h c member
  simp only [Char.isDigit, Bool.and_eq_true, decide_eq_true_eq, ge_iff_le, UInt32.le_iff_toNat_le]
    at digit
  simp only [Char.toNat]
  have : '0'.val.toNat = 48 := rfl
  omega

theorem printable_digits (n : Nat) : Printable (Text.digits n) :=
  printable_of_isDigit fun _ => Text.isDigit_of_mem_digits

theorem printable_replicate (n : Nat) {c : Char} (hc : 32 ≤ c.toNat) :
    Printable (List.replicate n c) := by
  intro d h
  rw [(List.mem_replicate.1 h).2]
  exact hc

theorem printable_take {s : List Char} (h : Printable s) (n : Nat) : Printable (s.take n) :=
  fun c member => h c (List.mem_of_mem_take member)

theorem printable_drop {s : List Char} (h : Printable s) (n : Nat) : Printable (s.drop n) :=
  fun c member => h c (List.mem_of_mem_drop member)

theorem printable_hexChar (value : Fin 16) : 32 ≤ (Text.hexChar value).toNat := by
  revert value; decide

theorem printable_short (c : Char) (hc : 32 ≤ c.toNat) : Printable ['\\', c] :=
  printable_cons (by decide) (printable_cons hc printable_nil)

theorem printable_escape (c : Char) : Printable (escape c) := by
  unfold escape
  split; · exact printable_short _ (by decide)
  split; · exact printable_short _ (by decide)
  split; · exact printable_short _ (by decide)
  split; · exact printable_short _ (by decide)
  split; · exact printable_short _ (by decide)
  split; · exact printable_short _ (by decide)
  split; · exact printable_short _ (by decide)
  split
  · exact printable_cons (by decide) (printable_cons (by decide) (printable_cons (by decide)
      (printable_cons (by decide) (printable_cons (printable_hexChar _)
        (printable_cons (printable_hexChar _) printable_nil)))))
  · next large => exact printable_cons (by omega) printable_nil

theorem printable_quoted (s : String) : Printable (quoted s) := by
  refine printable_cons (by decide) (printable_append ?_ (printable_cons (by decide) printable_nil))
  intro c h
  obtain ⟨d, _, member⟩ := List.mem_flatMap.1 h
  exact printable_escape d c member

theorem printable_intDigits (i : Int) : Printable (Text.intDigits i) := by
  unfold Text.intDigits
  split
  · exact printable_cons (by decide) (printable_digits _)
  · exact printable_digits _

theorem printable_positional (d : Decimal) : Printable d.positional := by
  unfold Decimal.positional
  have ds := printable_digits d.coefficient
  have zeros (n : Nat) : Printable (List.replicate n '0') := printable_replicate n (by decide)
  dsimp only
  split
  · exact printable_append ds (zeros _)
  · split
    · exact printable_append (printable_take ds _) (printable_cons (by decide) (printable_drop ds _))
    · exact printable_cons (by decide)
        (printable_cons (by decide) (printable_append (zeros _) ds))

theorem printable_scientific (d : Decimal) : Printable d.scientific := by
  unfold Decimal.scientific
  have ds := printable_digits d.coefficient
  dsimp only
  refine printable_append ?_ (printable_cons (by decide) (printable_cons ?_ (printable_digits _)))
  · split
    · exact ds
    · exact printable_append (printable_take ds _) (printable_cons (by decide) (printable_drop ds _))
  · split <;> decide

theorem printable_number (x : Finite64) : Printable x.json := by
  unfold Finite64.json
  refine printable_append ?_ ?_
  · cases x.negative
    · exact printable_nil
    · exact printable_cons (by decide) printable_nil
  · unfold Decimal.json
    split
    · split
      · exact printable_append (printable_positional _)
          (printable_cons (by decide) (printable_cons (by decide) printable_nil))
      · exact printable_positional _
    · exact printable_scientific _

mutual
/-- A JSON text has no character below U+0020. -/
theorem printable_write : ∀ v : Json, Printable (write v)
  | null | bool true | bool false => by simp [write, Printable]
  | integer i => by simpa only [write] using printable_intDigits i.val
  | number x => by simpa only [write] using printable_number x
  | string s => by simpa only [write] using printable_quoted s
  | array items => by
    simp only [write]
    exact printable_cons (by decide)
      (printable_append (printable_writeItems items) (printable_cons (by decide) printable_nil))
  | object members => by
    simp only [write]
    exact printable_cons (by decide)
      (printable_append (printable_writeMembers members)
        (printable_cons (by decide) printable_nil))

theorem printable_writeItems : ∀ items : List Json, Printable (writeItems items)
  | [] => printable_nil
  | [item] => by simpa only [writeItems] using printable_write item
  | item :: next :: items => by
    simp only [writeItems]
    exact printable_append (printable_write item)
      (printable_cons (by decide) (printable_writeItems (next :: items)))

theorem printable_writeMembers :
    ∀ members : List (String × Json), Printable (writeMembers members)
  | [] => printable_nil
  | [(key, value)] => by
    simp only [writeMembers]
    exact printable_append (printable_quoted key)
      (printable_cons (by decide) (printable_write value))
  | (key, value) :: next :: members => by
    simp only [writeMembers]
    exact printable_append (printable_quoted key)
      (printable_cons (by decide) (printable_append (printable_write value)
        (printable_cons (by decide) (printable_writeMembers (next :: members)))))
end

end BoundQuery.Json
