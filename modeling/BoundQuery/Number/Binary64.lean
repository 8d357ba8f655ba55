import BoundQuery.Text.Digits

/-!
# Binary64 numbers

The magnitudes of the finite numbers are counted from zero upward: `code` is the place in that
sequence, so the next larger number has the next code. A decimal is read as the nearest number,
a half going to the even code; beyond the last code lies infinity.
-/

namespace BoundQuery

/-- The number `coefficient · 10 ^ exponent`. -/
structure Decimal where
  coefficient : Nat
  exponent : Int
deriving DecidableEq, Repr, Inhabited

namespace Decimal

/-- A decimal from its digits before and after the point and its written exponent. -/
def ofParts (whole fraction : List Char) (exponent : Int) : Decimal :=
  ⟨Text.natOfDigits (whole ++ fraction), exponent - fraction.length⟩

/-- The same number with no zero at the end of its coefficient. -/
def reduced (d : Decimal) : Decimal :=
  if h : d.coefficient ≠ 0 ∧ d.coefficient % 10 = 0 then
    reduced ⟨d.coefficient / 10, d.exponent + 1⟩
  else d
termination_by d.coefficient
decreasing_by omega

end Decimal

/-- How many magnitudes share a power of two: `2 ^ 52`. -/
def binadeCodes : Nat := 0x10000000000000

/-- How many magnitudes are finite. -/
def finiteCodes : Nat := 2047 * binadeCodes

/-- A finite binary64 number. -/
structure Finite64 where
  negative : Bool
  code : Fin finiteCodes
deriving DecidableEq, Repr

namespace Finite64

def zero (negative : Bool) : Finite64 := ⟨negative, ⟨0, by decide⟩⟩

instance : Inhabited Finite64 := ⟨zero false⟩

/-- The integer that the last place is counted in. -/
def significand (x : Finite64) : Nat :=
  if x.code.val < binadeCodes then x.code.val else binadeCodes + x.code.val % binadeCodes

/-- The power of two that the last place stands for. -/
def exponent (x : Finite64) : Int :=
  if x.code.val < binadeCodes then -1074 else (x.code.val / binadeCodes : Nat) - 1075

/-- The magnitude as a numerator over a positive denominator. -/
def ratio (x : Finite64) : Nat × Nat :=
  if 0 ≤ x.exponent then (x.significand * Nat.pow 2 x.exponent.toNat, 1)
  else (x.significand, Nat.pow 2 (-x.exponent).toNat)

/-- Equality of the numbers: the two zeros are one number. -/
def sameNumber (x y : Finite64) : Bool := x == y || (x.code.val == 0 && y.code.val == 0)

@[simp] theorem sameNumber_self (x : Finite64) : x.sameNumber x = true := by simp [sameNumber]

end Finite64

/-- A binary64 number or one of the values that stand for none. -/
inductive Binary64 where
  | finite (x : Finite64)
  | infinite (negative : Bool)
  | nan
deriving DecidableEq, Repr, Inhabited

namespace Binary64

/-- The finite number, if the value is one. -/
def finite? : Binary64 → Option Finite64
  | finite x => some x
  | _ => none

/-- Equality of numbers: zero equals minus zero, and `nan` differs from everything. -/
def sameNumber : Binary64 → Binary64 → Bool
  | finite x, finite y => x.sameNumber y
  | infinite a, infinite b => a == b
  | _, _ => false

/-- The quotient rounded to the nearest integer, a half to the even one. -/
def roundEven (num den : Nat) : Nat :=
  let q := num / den
  let r := num % den
  if 2 * r < den then q else if den < 2 * r then q + 1 else q + q % 2

/-- The fraction `num / den · 2 ^ (-place)`. -/
def scaleBinary (num den : Nat) (place : Int) : Nat × Nat :=
  if 0 ≤ place then (num, den * Nat.pow 2 place.toNat) else (num * Nat.pow 2 (-place).toNat, den)

/-- The power of two of the last place of a nonzero `num / den`: the least one from -1074 up
that leaves fewer than 54 bits before the point. -/
def lastPlace (num den : Nat) : Int :=
  let guess : Int := (num.log2 : Int) - den.log2 - 53
  let (n, d) := scaleBinary num den guess
  max (-1074) (if n < 2 * d * binadeCodes then guess else guess + 1)

/-- The number nearest to `num / den`. -/
def ofRatio (negative : Bool) (num den : Nat) : Binary64 :=
  if num = 0 then finite (Finite64.zero negative)
  else
    let place := lastPlace num den
    let (n, d) := scaleBinary num den place
    let code := (place + 1074).toNat * binadeCodes + roundEven n d
    if h : code < finiteCodes then finite ⟨negative, ⟨code, h⟩⟩ else infinite negative

/-- The number nearest to a decimal. Decimals from `10 ^ 310` up are infinite and those below
`10 ^ (-330)` zero, whatever their digits, so no power of ten grows with the exponent. -/
def ofDecimal (negative : Bool) (d : Decimal) : Binary64 :=
  let magnitude := d.exponent + (Text.digits d.coefficient).length
  if d.coefficient = 0 ∨ magnitude < -330 then finite (Finite64.zero negative)
  else if 310 < magnitude then infinite negative
  else if 0 ≤ d.exponent then ofRatio negative (d.coefficient * Nat.pow 10 d.exponent.toNat) 1
  else ofRatio negative d.coefficient (Nat.pow 10 (-d.exponent).toNat)

/-- The number nearest to an integer. -/
def ofInt (i : Int) : Binary64 := ofRatio (decide (i < 0)) i.natAbs 1

/-- The optional exponent at the head of a text: `e` or `E`, an optional sign, digits. -/
def readExponent (s : List Char) : Option (Int × List Char) :=
  match s with
  | c :: rest =>
    if c = 'e' ∨ c = 'E' then
      let (negative, body) := match rest with
        | '-' :: body => (true, body)
        | '+' :: body => (false, body)
        | _ => (false, rest)
      (Text.readNat body).map fun (n, rest) => (if negative then -(n : Int) else n, rest)
    else some (0, s)
  | [] => some (0, [])

/-- The magnitude written by a whole text: digits with a point before, between or behind them,
and an exponent. -/
def readMagnitude? (s : List Char) : Option Decimal :=
  let (whole, rest) := Text.spanDigits s
  let (fraction, rest) := match rest with
    | '.' :: rest => Text.spanDigits rest
    | _ => ([], rest)
  if whole = [] ∧ fraction = [] then none
  else match readExponent rest with
    | some (exponent, []) => some (Decimal.ofParts whole fraction exponent)
    | _ => none

/-- Reads a sign and a magnitude, `inf`, `infinity` or `nan`, the words in any case. -/
def ofText? (s : String) : Option Binary64 :=
  let (negative, body) := match s.toList with
    | '-' :: body => (true, body)
    | '+' :: body => (false, body)
    | body => (false, body)
  let word := String.ofList (body.map Char.toLower)
  if word = "inf" ∨ word = "infinity" then some (infinite negative)
  else if word = "nan" then some nan
  else (readMagnitude? body).map (ofDecimal negative)

theorem roundEven_le (num den : Nat) : roundEven num den ≤ num / den + 1 := by
  fun_cases roundEven num den <;> omega

/-- Of an integer of 64 bits, eleven do not fit before the point. -/
theorem lastPlace_of_wide {n : Nat} (lower : 0x8000000000000000 ≤ n)
    (upper : n < 0x10000000000000000) : lastPlace n 1 = 11 := by
  have size : n.log2 = 63 := (Nat.log2_eq_iff (by omega)).mpr ⟨lower, upper⟩
  have scaled : scaleBinary n 1 ((63 : Nat) - (Nat.log2 1 : Nat) - 53) = (n, 1024) := by
    rw [show Nat.log2 1 = 0 by decide]
    rfl
  rw [lastPlace, size]
  simp only [scaled]
  rw [if_neg (by simp only [binadeCodes]; omega)]
  decide

/-- Integers of 64 bits are far from the largest double. -/
theorem exists_ofRatio_of_wide (negative : Bool) {n : Nat} (lower : 0x8000000000000000 ≤ n)
    (upper : n < 0x10000000000000000) : ∃ x, ofRatio negative n 1 = finite x := by
  have last := lastPlace_of_wide lower upper
  fun_cases ofRatio negative n 1
  · exact ⟨_, rfl⟩
  · exact ⟨_, rfl⟩
  · next place num den scaled code beyond =>
    refine absurd ?_ beyond
    have pair : (n, 2048) = (num, den) := by rw [← scaled, show place = 11 from last]; rfl
    obtain ⟨rfl, rfl⟩ := Prod.mk.inj pair
    have rounded := roundEven_le n 2048
    simp only [code, show place = 11 from last, finiteCodes, binadeCodes]
    omega

end Binary64

end BoundQuery
