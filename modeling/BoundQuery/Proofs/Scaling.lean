import BoundQuery.Proofs.NumberText

/-!
# Numbers of few digits

Scaling rounds twice, and for some numbers that shows. For a decimal of few digits and a small
exponent it does not: the coefficient and the power of ten are numbers themselves, so the only
rounding is that of the result, which is the nearest number then. Such numbers are read back from
their JSON text.

Results:
1. `exists_isNat`: whole numbers that fit the significand are not rounded.
2. `scaled?_eq`: scaling gives the nearest number for few digits and a small exponent.
3. `readsBack_of_few` / `not_readsBack`: numbers with such decimals are read back, others may not.
-/

namespace BoundQuery.Finite64

open Binary64 (ofRatio ofDecimal)
open Json (written)

/-- The magnitude is a whole number. -/
def IsNat (x : Finite64) (n : Nat) : Prop := x.ratio.1 = n * x.ratio.2

variable {x y : Finite64} {m n : Nat}

theorem IsNat.mul (hx : x.IsNat m) (hy : y.IsNat n) :
    x.mul y = ofRatio (xor x.negative y.negative) (m * n) 1 := by
  have denominator := Nat.mul_pos x.denominator_positive y.denominator_positive
  have reduced := Binary64.ofRatio_mul (xor x.negative y.negative) (m * n) Nat.one_pos denominator
  rw [Nat.one_mul] at reduced
  rw [Finite64.mul, hx, hy, Nat.mul_mul_mul_comm, reduced]

theorem IsNat.div (hx : x.IsNat m) (hy : y.IsNat n) (nonzero : 0 < n) :
    x.div y = ofRatio (xor x.negative y.negative) m n := by
  have denominator := Nat.mul_pos x.denominator_positive y.denominator_positive
  rw [Finite64.div, hx, hy, Nat.mul_assoc, Nat.mul_left_comm x.ratio.2,
    Binary64.ofRatio_mul _ m nonzero denominator]

/-! ## Whole numbers -/

theorem isNat_zero (negative : Bool) : (zero negative).IsNat 0 := by
  have none : (zero negative).significand = 0 := rfl
  unfold IsNat ratio
  split <;> simp [none]

/-- A significand whose first bit is set, at a place that is not too high. -/
theorem exists_normal (negative : Bool) {m : Nat} (low : binadeCodes ≤ m)
    (high : m < 2 * binadeCodes) (place : Nat) (within : place ≤ 2045) :
    ∃ x : Finite64, x.negative = negative ∧ x.code.val ≠ 0 ∧ x.significand = m ∧
      x.exponent = (place : Int) - 1074 := by
  simp only [binadeCodes] at low high
  have finite : place * binadeCodes + m < finiteCodes := by
    simp only [finiteCodes, binadeCodes]
    omega
  have normal : ¬place * binadeCodes + m < binadeCodes := by
    simp only [binadeCodes]
    omega
  refine ⟨⟨negative, ⟨place * binadeCodes + m, finite⟩⟩, rfl, ?_, ?_, ?_⟩
  · simp only [binadeCodes]
    omega
  · rw [significand, if_neg normal]
    simp only [binadeCodes]
    omega
  · rw [exponent, if_neg normal]
    simp only [binadeCodes]
    omega

/-- Room is made for 53 bits by a power of two. -/
theorem exists_shift {m : Nat} (nonzero : 0 < m) (few : m < 2 * binadeCodes) :
    ∃ s ≤ 52, binadeCodes ≤ m * 2 ^ s ∧ m * 2 ^ s < 2 * binadeCodes := by
  have short : m.log2 < 53 := (Nat.log2_lt nonzero.ne').mpr few
  obtain ⟨s, sum⟩ : ∃ s, 52 = m.log2 + s := ⟨52 - m.log2, by omega⟩
  have least : binadeCodes = 2 ^ m.log2 * 2 ^ s := by rw [← Nat.pow_add, ← sum]; rfl
  have most : 2 * binadeCodes = 2 ^ (m.log2 + 1) * 2 ^ s := by rw [least, Nat.pow_succ']; ring
  refine ⟨s, by omega, ?_, ?_⟩
  · rw [least]
    exact Nat.mul_le_mul_right _ (Nat.log2_self_le nonzero.ne')
  · rw [most]
    exact Nat.mul_lt_mul_of_pos_right Nat.lt_log2_self (Nat.pow_pos (by decide))

theorem isNat_of_exponent {x : Finite64} {m s k : Nat} (whole : x.significand = m * 2 ^ s)
    (place : x.exponent = (k : Int) - s) : x.IsNat (m * 2 ^ k) := by
  unfold IsNat ratio
  split
  · next up =>
    have sum : k = s + x.exponent.toNat := by omega
    rw [whole, Nat.pow_eq, Nat.mul_one, Nat.mul_assoc, ← Nat.pow_add, ← sum]
  · next down =>
    have sum : s = k + (-x.exponent).toNat := by omega
    rw [whole, Nat.pow_eq, Nat.mul_assoc, ← Nat.pow_add, ← sum]

theorem IsNat.ofRatio_eq (h : x.IsNat n) (nonzero : x.code.val ≠ 0) :
    ofRatio x.negative n 1 = .finite x := by
  have reduced := Binary64.ofRatio_mul x.negative n Nat.one_pos x.denominator_positive
  rw [Nat.one_mul] at reduced
  rw [← reduced, ← h, ofRatio_ratio nonzero]

/-- A whole number of at most 53 bits, or one that is a power of two larger, is not rounded. -/
theorem exists_isNat (negative : Bool) {m : Nat} (few : m < 2 * binadeCodes) {k : Nat}
    (near : k ≤ 900) :
    ∃ x : Finite64, ofRatio negative (m * 2 ^ k) 1 = .finite x ∧ x.negative = negative ∧
      x.IsNat (m * 2 ^ k) := by
  rcases Nat.eq_zero_or_pos m with rfl | nonzero
  · rw [Nat.zero_mul]
    exact ⟨zero negative, by rw [ofRatio, if_pos rfl], rfl, isNat_zero negative⟩
  · obtain ⟨s, bounded, low, high⟩ := exists_shift nonzero few
    obtain ⟨x, rfl, filled, whole, place⟩ :=
      exists_normal negative low high (k + 1074 - s) (by omega)
    have value : x.IsNat (m * 2 ^ k) := isNat_of_exponent whole (by omega)
    exact ⟨x, value.ofRatio_eq filled, rfl, value⟩

/-! ## Small powers of ten -/

theorem exists_tenPower {k : Nat} (small : k ≤ 22) :
    ∃ x : Finite64, tenPower? k = some x ∧ x.negative = false ∧ x.IsNat (10 ^ k) := by
  have few : 5 ^ k < 2 * binadeCodes :=
    Nat.lt_of_le_of_lt (Nat.pow_le_pow_right (by decide) small) (by decide)
  have parts : 5 ^ k * 2 ^ k = 10 ^ k := by rw [← Nat.mul_pow]
  obtain ⟨x, exact, sign, value⟩ := exists_isNat false few (Nat.le_trans small (by decide))
  rw [parts] at exact value
  refine ⟨x, ?_, sign, value⟩
  rw [tenPower?, Nat.pow_eq, exact]
  rfl

end BoundQuery.Finite64

namespace BoundQuery.Decimal

open Binary64 (ofRatio ofDecimal)
open Finite64 (exists_isNat exists_tenPower)

/-- A decimal that is far from the limits is read as its fraction. -/
theorem ofDecimal_eq {d : Decimal} (negative : Bool) (few : d.coefficient < 2 * binadeCodes)
    (near : d.exponent.natAbs ≤ 22) : ofDecimal negative d =
      if 0 ≤ d.exponent then ofRatio negative (d.coefficient * 10 ^ d.exponent.toNat) 1
      else ofRatio negative d.coefficient (10 ^ (-d.exponent).toNat) := by
  have short : (Text.digits d.coefficient).length ≤ 16 :=
    (Nat.length_toDigits_le_iff (by decide) (by decide)).mpr (Nat.lt_trans few (by decide))
  by_cases zero : d.coefficient = 0
  · simp [ofDecimal, ofRatio, zero]
  · simp only [ofDecimal, zero, false_or, Nat.pow_eq]
    rw [if_neg (by omega), if_neg (by omega)]

/-- With few digits and a small exponent, scaling rounds once. -/
theorem scaled?_eq {d : Decimal} (negative : Bool) (few : d.coefficient < 2 * binadeCodes)
    (near : d.exponent.natAbs ≤ 22) : d.scaled? negative = (ofDecimal negative d).finite? := by
  obtain ⟨x, exact, rfl, value⟩ := exists_isNat negative few (Nat.zero_le 900)
  obtain ⟨power, ten, sign, tenValue⟩ := exists_tenPower near
  rw [Nat.pow_zero, Nat.mul_one] at exact value
  have within : d.exponent.natAbs ≤ Finite64.maxTenPower := Nat.le_trans near (by decide)
  have steps : d.scaled? x.negative =
      (if 0 ≤ d.exponent then x.mul power else x.div power).finite? := by
    simp only [scaled?, exact, Binary64.finite?, Option.bind_eq_bind, Option.bind_some]
    rw [Finite64.scaleTen?, if_pos within, ten]
    rfl
  rw [steps, ofDecimal_eq x.negative few near, value.mul tenValue,
    value.div tenValue (Nat.pow_pos (by decide)), sign, Bool.xor_false]
  split
  · next up => rw [show d.exponent.natAbs = d.exponent.toNat by omega]
  · next down => rw [show d.exponent.natAbs = (-d.exponent).toNat by omega]

end BoundQuery.Decimal

namespace BoundQuery.Finite64

open Binary64 (ofDecimal)
open Json (written)

/-- The zero behind the point changes nothing of what is written. -/
theorem ofDecimal_written (negative : Bool) (d : Decimal) :
    ofDecimal negative (written d) = ofDecimal negative d := by
  unfold written
  split
  · next both =>
    obtain ⟨c, e⟩ := d
    obtain ⟨n, rfl⟩ := Int.eq_ofNat_of_zero_le both.2
    have exponent : (-1 : Int) + (n + 1 : Nat) = n := by omega
    rw [Int.toNat_natCast, Binary64.ofDecimal_shift, exponent]
  · rfl

/-- A number is read back from its text if that has few digits and a small exponent. -/
theorem readsBack_of_few {x : Finite64}
    (few : (written (x.shortest .toEven)).coefficient < 2 * binadeCodes)
    (near : (written (x.shortest .toEven)).exponent.natAbs ≤ 22) : x.ReadsBack := by
  refine readsBack_of_scaled (Nat.lt_trans few (by decide)) ?_
  rw [Decimal.scaled?_eq x.negative few near, ofDecimal_written, ofDecimal_shortest]
  rfl

/-- The number next below the one that its text, `51.248178375505404`, is read as. -/
theorem not_readsBack : ¬ReadsBack ⟨false, ⟨0x40499FC44F1B2F60, by decide⟩⟩ := by
  generalize shape : (⟨false, ⟨0x40499FC44F1B2F60, by decide⟩⟩ : Finite64) = x
  have digits : written (x.shortest .toEven) = ⟨51248178375505404, -15⟩ := by
    rw [← shape]
    decide +kernel
  have next : Decimal.scaled? false ⟨51248178375505404, -15⟩ =
      some ⟨false, ⟨0x40499FC44F1B2F61, by decide⟩⟩ := by decide +kernel
  intro back
  obtain ⟨leading, same, _, alone⟩ := Json.exists_read_number x
  rw [digits] at same
  have sign : x.negative = false := by rw [← shape]
  rw [ReadsBack, alone, same (by decide), sign, next, ← shape] at back
  cases back

end BoundQuery.Finite64
