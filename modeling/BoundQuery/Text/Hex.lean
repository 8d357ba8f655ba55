/-!
# Hexadecimal digits

Writing is lower case; reading takes both cases.
-/

namespace BoundQuery.Text

/-- The digits in order of value. -/
def hexDigits : List Char :=
  ['0', '1', '2', '3', '4', '5', '6', '7', '8', '9', 'a', 'b', 'c', 'd', 'e', 'f']

/-- The lower-case digit of a value. -/
def hexChar (value : Fin 16) : Char := hexDigits.get value

/-- The value of a digit in either case. -/
def hexValue? (c : Char) : Option (Fin 16) :=
  let n := c.toNat
  if h : 48 ≤ n ∧ n ≤ 57 then some ⟨n - 48, by omega⟩
  else if h : 97 ≤ n ∧ n ≤ 102 then some ⟨n - 87, by omega⟩
  else if h : 65 ≤ n ∧ n ≤ 70 then some ⟨n - 55, by omega⟩
  else none

theorem hexValue?_hexChar (value : Fin 16) : hexValue? (hexChar value) = some value := by
  revert value; decide

/-- The number written by hexadecimal digits, if all of them are such. -/
def hexNat? (s : List Char) : Option Nat :=
  s.foldl (fun acc c => do some ((← acc) * 16 + (← hexValue? c).val)) (some 0)

/-- A number as lower-case digits without leading zeros. -/
def hexText (n : Nat) : List Char := Nat.toDigits 16 n

end BoundQuery.Text
