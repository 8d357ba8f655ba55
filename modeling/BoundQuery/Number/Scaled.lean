import BoundQuery.Number.Binary64

/-!
# Decimals read by scaling

The first digits of a decimal, as many as 64 bits hold, make a whole number, and a power of ten
multiplies or divides it. Both steps round, so a decimal is read as a number near it and not always
as the nearest one.
-/

namespace BoundQuery

namespace Finite64

/-- The product, rounded. -/
def mul (x y : Finite64) : Binary64 :=
  Binary64.ofRatio (xor x.negative y.negative) (x.ratio.1 * y.ratio.1) (x.ratio.2 * y.ratio.2)

/-- The quotient by a number that is not zero, rounded. -/
def div (x y : Finite64) : Binary64 :=
  Binary64.ofRatio (xor x.negative y.negative) (x.ratio.1 * y.ratio.2) (x.ratio.2 * y.ratio.1)

/-- The exponent of the greatest finite power of ten. -/
def maxTenPower : Nat := 308

/-- A power of ten, rounded. -/
def tenPower? (n : Nat) : Option Finite64 := (Binary64.ofRatio false (Nat.pow 10 n) 1).finite?

/-- The number times a power of ten. Beyond the greatest one, a number is too large, and below the
inverse of that one it is divided more than once; only zero stays what it is. -/
def scaleTen? (x : Finite64) (exponent : Int) : Option Finite64 :=
  if exponent.natAbs ≤ maxTenPower then do
    let power ← tenPower? exponent.natAbs
    (if 0 ≤ exponent then x.mul power else x.div power).finite?
  else if x.code.val = 0 then some x
  else if 0 ≤ exponent then none
  else do
    let power ← tenPower? maxTenPower
    let quotient ← (x.div power).finite?
    quotient.scaleTen? (exponent + maxTenPower)
termination_by exponent.natAbs
decreasing_by
  simp only [maxTenPower] at *
  omega

end Finite64

namespace Decimal

/-- Digits go behind a coefficient as long as it has no more than 64 bits; from the first one that
does not fit, they are left over. -/
def takeDigits (coefficient : Nat) : List Char → Nat × List Char
  | [] => (coefficient, [])
  | c :: rest =>
    let next := 10 * coefficient + (c.toNat - '0'.toNat)
    if next < 0x10000000000000000 then takeDigits next rest else (coefficient, c :: rest)

/-- A decimal from its digits before and after the point and its written exponent. Of the digits
left over, only the places of those before the point are counted. -/
def leading (whole fraction : List Char) (exponent : Int) : Decimal :=
  let (coefficient, dropped) := takeDigits 0 whole
  let (coefficient, rest) := takeDigits coefficient fraction
  ⟨coefficient, exponent + dropped.length - (fraction.length - rest.length : Nat)⟩

/-- The number that scaling makes of a decimal, unless it is too large. -/
def scaled? (negative : Bool) (d : Decimal) : Option Finite64 := do
  let x ← (Binary64.ofRatio negative d.coefficient 1).finite?
  x.scaleTen? d.exponent

/-- If a coefficient fits with all digits behind it, none is left over. -/
theorem takeDigits_of_fits {s : List Char} {coefficient : Nat}
    (fits : Nat.ofDigitChars 10 s coefficient < 0x10000000000000000) :
    takeDigits coefficient s = (Nat.ofDigitChars 10 s coefficient, []) := by
  induction s generalizing coefficient with
  | nil => rw [takeDigits, Nat.ofDigitChars_nil]
  | cons c rest ih =>
    rw [Nat.ofDigitChars_cons] at fits ⊢
    have next := Nat.lt_of_le_of_lt (Text.le_ofDigitChars rest _) fits
    simp only [takeDigits]
    rw [if_pos next, ih fits]

/-- If the coefficient fits, the decimal is taken as it is written. -/
theorem leading_of_fits {whole fraction : List Char}
    (fits : Text.natOfDigits (whole ++ fraction) < 0x10000000000000000) (exponent : Int) :
    leading whole fraction exponent = ofParts whole fraction exponent := by
  rw [Text.natOfDigits, Nat.ofDigitChars_append] at fits
  have first := Nat.lt_of_le_of_lt (Text.le_ofDigitChars fraction _) fits
  simp only [leading, takeDigits_of_fits first, takeDigits_of_fits fits]
  simp [ofParts, Text.natOfDigits, Nat.ofDigitChars_append]

end Decimal

end BoundQuery
