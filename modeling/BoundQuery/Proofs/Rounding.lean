import BoundQuery.Number.Layout
import Mathlib.Algebra.Order.Field.Power
import Mathlib.Algebra.Order.Floor.Semiring
import Mathlib.Data.Int.Log
import Mathlib.Data.Rat.Floor
import Mathlib.Tactic.GCongr
import Mathlib.Tactic.NormNum
import Mathlib.Tactic.Positivity
import Mathlib.Tactic.Ring

/-!
# Reading the digits of a number

The nearest binary64 number of a fraction depends on its value only, so a decimal may be written
with more zeros or fewer, and a number written out in full is nearest to itself. With that a number
is always the nearest one to the decimal that is chosen for it, also where the search for a short
one would find none.

Results:
1. `Binary64.lastPlace_eq`: the last place of a fraction from the binary logarithm of its value.
2. `Binary64.ofRatio_mul` / `Binary64.ofDecimal_shift`: a common factor, and zeros at the end.
3. `Finite64.ofRatio_ratio` / `Finite64.ofDecimal_exactDecimal`: exact values.
4. `Finite64.ofDecimal_shortest`: the number is the nearest one to the chosen decimal.
-/

namespace BoundQuery.Binary64

/-! ## The last place -/

theorem scaleBinary_value (num den : Nat) (place : Int) :
    ((scaleBinary num den place).1 : ℚ) / (scaleBinary num den place).2 =
      num / den / (2 : ℕ) ^ place := by
  unfold scaleBinary
  split
  · next up =>
    obtain ⟨k, rfl⟩ := Int.eq_ofNat_of_zero_le up
    simp [div_div]
  · next down =>
    obtain ⟨k, rfl⟩ : ∃ k : Nat, place = -k := ⟨(-place).toNat, by omega⟩
    simp [mul_div_right_comm]

theorem scaleBinary_positive (num : Nat) {den : Nat} (positive : 0 < den) (place : Int) :
    0 < (scaleBinary num den place).2 := by
  unfold scaleBinary
  split
  · exact Nat.mul_pos positive (Nat.pow_pos (by decide))
  · exact positive

theorem log_ratio_bounds {num den : Nat} (nonzero : 0 < num) (positive : 0 < den) :
    (num.log2 : Int) - den.log2 - 1 ≤ Int.log 2 ((num : ℚ) / den) ∧
      Int.log 2 ((num : ℚ) / den) ≤ num.log2 - den.log2 := by
  have value : (0 : ℚ) < num / den := by positivity
  have numLow : (2 : ℚ) ^ num.log2 ≤ num := by exact_mod_cast Nat.log2_self_le nonzero.ne'
  have numHigh : (num : ℚ) < 2 ^ (num.log2 + 1) := by exact_mod_cast Nat.lt_log2_self
  have denLow : (2 : ℚ) ^ den.log2 ≤ den := by exact_mod_cast Nat.log2_self_le positive.ne'
  have denHigh : (den : ℚ) < 2 ^ (den.log2 + 1) := by exact_mod_cast Nat.lt_log2_self
  constructor
  · rw [← Int.zpow_le_iff_le_log (by decide) value, le_div_iff₀ (by positivity)]
    calc ((2 : ℕ) : ℚ) ^ ((num.log2 : Int) - den.log2 - 1) * den
        ≤ (2 : ℚ) ^ ((num.log2 : Int) - den.log2 - 1) * 2 ^ (den.log2 + 1) := by
          push_cast
          gcongr
      _ = 2 ^ num.log2 := by
          rw [← zpow_natCast, ← zpow_natCast, ← zpow_add₀ (by decide)]
          congr 1
          push_cast
          omega
      _ ≤ num := numLow
  · rw [← Int.lt_add_one_iff, ← Int.lt_zpow_iff_log_lt (by decide) value,
      div_lt_iff₀ (by positivity)]
    calc (num : ℚ) < 2 ^ (num.log2 + 1) := numHigh
      _ = (2 : ℚ) ^ ((num.log2 : Int) - den.log2 + 1) * 2 ^ den.log2 := by
          rw [← zpow_natCast, ← zpow_natCast, ← zpow_add₀ (by decide)]
          congr 1
          push_cast
          omega
      _ ≤ ((2 : ℕ) : ℚ) ^ ((num.log2 : Int) - den.log2 + 1) * den := by
          push_cast
          gcongr

/-- The last place is that of the value, however the fraction is written. -/
theorem lastPlace_eq {num den : Nat} (nonzero : 0 < num) (positive : 0 < den) :
    lastPlace num den = max (-1074) (Int.log 2 ((num : ℚ) / den) - 52) := by
  have value : (0 : ℚ) < num / den := by positivity
  obtain ⟨low, high⟩ := log_ratio_bounds nonzero positive
  generalize same : (num.log2 : Int) - den.log2 - 53 = guess
  have scaled := scaleBinary_value num den guess
  have below := scaleBinary_positive num positive guess
  have narrow : (scaleBinary num den guess).1 < 2 * (scaleBinary num den guess).2 * binadeCodes ↔
      Int.log 2 ((num : ℚ) / den) < guess + 53 := by
    rw [← Int.lt_zpow_iff_log_lt (by decide) value, zpow_add₀ (by decide),
      ← div_lt_iff₀' (by positivity), ← scaled, div_lt_iff₀ (by positivity),
      ← Nat.cast_lt (α := ℚ)]
    norm_num [binadeCodes]
    ring_nf
  simp only [lastPlace, same, narrow]
  congr 1
  split <;> omega

theorem lastPlace_mul {num den k : Nat} (nonzero : 0 < num) (positive : 0 < den) (factor : 0 < k) :
    lastPlace (num * k) (den * k) = lastPlace num den := by
  rw [lastPlace_eq (Nat.mul_pos nonzero factor) (Nat.mul_pos positive factor),
    lastPlace_eq nonzero positive, Nat.cast_mul, Nat.cast_mul,
    mul_div_mul_right _ _ (Nat.cast_ne_zero.mpr factor.ne')]

/-! ## The nearest number of a fraction -/

theorem scaleBinary_mul (num den k : Nat) (place : Int) :
    scaleBinary (num * k) (den * k) place =
      ((scaleBinary num den place).1 * k, (scaleBinary num den place).2 * k) := by
  unfold scaleBinary
  split
  · rw [Nat.mul_right_comm]
  · rw [Nat.mul_right_comm]

theorem roundEven_mul (num den : Nat) {k : Nat} (factor : 0 < k) :
    roundEven (num * k) (den * k) = roundEven num den := by
  have low : 2 * (num % den * k) < den * k ↔ 2 * (num % den) < den := by
    rw [← Nat.mul_assoc]
    exact Nat.mul_lt_mul_right factor
  have high : den * k < 2 * (num % den * k) ↔ den < 2 * (num % den) := by
    rw [← Nat.mul_assoc]
    exact Nat.mul_lt_mul_right factor
  simp only [roundEven, Nat.mul_div_mul_right _ _ factor, Nat.mul_mod_mul_right, low, high]

theorem roundEven_exact (n : Nat) {den : Nat} (positive : 0 < den) :
    roundEven (n * den) den = n := by
  simp [roundEven, Nat.mul_div_cancel _ positive, positive]

/-- The magnitude at a place of the sequence; behind the last finite one it is infinite. -/
def ofCode (negative : Bool) (code : Nat) : Binary64 :=
  if h : code < finiteCodes then finite ⟨negative, ⟨code, h⟩⟩ else infinite negative

/-- The place in the sequence that a fraction is rounded to. -/
def codeOfRatio (num den : Nat) : Nat :=
  let scaled := scaleBinary num den (lastPlace num den)
  (lastPlace num den + 1074).toNat * binadeCodes + roundEven scaled.1 scaled.2

theorem ofRatio_eq_ofCode (negative : Bool) {num : Nat} (nonzero : 0 < num) (den : Nat) :
    ofRatio negative num den = ofCode negative (codeOfRatio num den) := by
  fun_cases ofRatio negative num den
  · next zero => exact absurd zero nonzero.ne'
  · next place n d scaled code within =>
    have same : codeOfRatio num den = code := by rw [codeOfRatio, scaled]
    rw [same, ofCode, dif_pos within]
  · next place n d scaled code beyond =>
    have same : codeOfRatio num den = code := by rw [codeOfRatio, scaled]
    rw [same, ofCode, dif_neg beyond]

/-- A fraction may be reduced before it is rounded. -/
theorem ofRatio_mul (negative : Bool) (num : Nat) {den k : Nat} (positive : 0 < den)
    (factor : 0 < k) : ofRatio negative (num * k) (den * k) = ofRatio negative num den := by
  rcases Nat.eq_zero_or_pos num with rfl | nonzero
  · simp [ofRatio]
  · rw [ofRatio_eq_ofCode _ (Nat.mul_pos nonzero factor), ofRatio_eq_ofCode _ nonzero]
    simp only [codeOfRatio, lastPlace_mul nonzero positive factor, scaleBinary_mul,
      roundEven_mul _ _ factor]

/-! ## Zeros at the end of a decimal -/

theorem digits_mul_pow {c : Nat} (nonzero : 0 < c) (k : Nat) :
    Text.digits (c * 10 ^ k) = Text.digits c ++ List.replicate k '0' := by
  induction k with
  | zero => simp
  | succ k ih =>
    rw [Nat.pow_succ, ← Nat.mul_assoc]
    have large : 10 ≤ c * 10 ^ k * 10 :=
      Nat.le_mul_of_pos_left 10 (Nat.mul_pos nonzero (Nat.pow_pos (by decide)))
    rw [Text.digits, Nat.toDigits_of_base_le (by decide) large, Nat.mul_mod_left,
      Nat.mul_div_cancel _ (by decide), ← Text.digits, ih, List.append_assoc, List.replicate_succ']
    rfl

/-- The fraction of a decimal, whose exponent may take in a power of ten. -/
theorem ofRatio_shift (negative : Bool) (c k : Nat) (e : Int) :
    (if 0 ≤ e then ofRatio negative (c * 10 ^ k * Nat.pow 10 e.toNat) 1
      else ofRatio negative (c * 10 ^ k) (Nat.pow 10 (-e).toNat)) =
    if 0 ≤ e + k then ofRatio negative (c * Nat.pow 10 (e + k).toNat) 1
      else ofRatio negative c (Nat.pow 10 (-(e + k)).toNat) := by
  have power (n : Nat) : 0 < 10 ^ n := Nat.pow_pos (by decide)
  simp only [Nat.pow_eq]
  by_cases whole : 0 ≤ e
  · have sum : k + e.toNat = (e + k).toNat := by omega
    rw [if_pos whole, if_pos (by omega), Nat.mul_assoc, ← Nat.pow_add, sum]
  · rw [if_neg whole]
    split
    · -- The power takes the whole denominator away.
      have sum : k = (e + k).toNat + (-e).toNat := by omega
      have reduced := ofRatio_mul negative (c * 10 ^ (e + k).toNat) Nat.one_pos (power (-e).toNat)
      rwa [Nat.one_mul, Nat.mul_assoc, ← Nat.pow_add, ← sum] at reduced
    · have sum : (-e).toNat = (-(e + k)).toNat + k := by omega
      rw [sum, Nat.pow_add, ofRatio_mul _ _ (power _) (power k)]

/-- Zeros at the end of the coefficient may be taken into the exponent. -/
theorem ofDecimal_shift (negative : Bool) (c k : Nat) (e : Int) :
    ofDecimal negative ⟨c * 10 ^ k, e⟩ = ofDecimal negative ⟨c, e + k⟩ := by
  rcases Nat.eq_zero_or_pos c with rfl | nonzero
  · rw [Nat.zero_mul]
    simp [ofDecimal]
  · have power : 0 < 10 ^ k := Nat.pow_pos (by decide)
    have magnitude : e + ((Text.digits c).length + k : Nat) = e + k + (Text.digits c).length := by
      omega
    simp only [ofDecimal, digits_mul_pow nonzero, List.length_append, List.length_replicate,
      magnitude, Nat.mul_eq_zero, nonzero.ne', power.ne', or_self, ofRatio_shift]

theorem ofDecimal_reduced (negative : Bool) (d : Decimal) :
    ofDecimal negative d.reduced = ofDecimal negative d := by
  fun_induction Decimal.reduced d with
  | case1 d ends ih =>
    have whole : d.coefficient / 10 * 10 ^ 1 = d.coefficient := by omega
    rw [ih, ← Nat.cast_one, ← ofDecimal_shift, whole]
  | case2 d => rfl

end BoundQuery.Binary64

namespace BoundQuery.Finite64

open Binary64 (ofRatio ofDecimal lastPlace scaleBinary)

/-! ## Exact values -/

theorem significand_lt (x : Finite64) : x.significand < 2 * binadeCodes := by
  unfold significand
  split
  · omega
  · have := Nat.mod_lt x.code.val (show 0 < binadeCodes by decide)
    omega

theorem significand_positive {x : Finite64} (nonzero : x.code.val ≠ 0) : 0 < x.significand := by
  unfold significand
  split
  · omega
  · exact Nat.add_pos_left (by decide) _

theorem exponent_bounds (x : Finite64) : -1074 ≤ x.exponent ∧ x.exponent ≤ 971 := by
  have within : x.code.val < 2047 * binadeCodes := x.code.isLt
  unfold exponent
  split
  · omega
  · simp only [binadeCodes] at *
    omega

/-- The place of a magnitude in the sequence, from its last place and what it counts there. -/
theorem code_eq (x : Finite64) :
    (x.exponent + 1074).toNat * binadeCodes + x.significand = x.code.val := by
  unfold exponent significand
  split
  · simp
  · simp only [binadeCodes] at *
    omega

theorem ratio_value (x : Finite64) :
    (x.ratio.1 : ℚ) / x.ratio.2 = x.significand * (2 : ℕ) ^ x.exponent := by
  unfold ratio
  split
  · next up =>
    obtain ⟨k, same⟩ := Int.eq_ofNat_of_zero_le up
    simp [same]
  · next down =>
    obtain ⟨k, same⟩ : ∃ k : Nat, x.exponent = -k := ⟨(-x.exponent).toNat, by omega⟩
    simp [same, div_eq_mul_inv]

theorem denominator_positive (x : Finite64) : 0 < x.ratio.2 := by
  unfold ratio
  split
  · exact Nat.one_pos
  · exact Nat.pow_pos (by decide)

theorem ratio_positive {x : Finite64} (nonzero : x.code.val ≠ 0) :
    0 < x.ratio.1 ∧ 0 < x.ratio.2 := by
  have whole := significand_positive nonzero
  refine ⟨?_, x.denominator_positive⟩
  unfold ratio
  split
  · exact Nat.mul_pos whole (Nat.pow_pos (by decide))
  · exact whole

/-- The last place of the value is the one that the number is counted in. -/
theorem lastPlace_ratio {x : Finite64} (nonzero : x.code.val ≠ 0) :
    lastPlace x.ratio.1 x.ratio.2 = x.exponent := by
  obtain ⟨above, below⟩ := ratio_positive nonzero
  have value : (0 : ℚ) < x.ratio.1 / x.ratio.2 := by positivity
  have bounds := x.exponent_bounds
  have high : Int.log 2 ((x.ratio.1 : ℚ) / x.ratio.2) < x.exponent + 53 := by
    have small : (x.significand : ℚ) < (2 : ℕ) ^ (53 : ℤ) := by exact_mod_cast x.significand_lt
    rw [← Int.lt_zpow_iff_log_lt (by decide) value, ratio_value, add_comm, zpow_add₀ (by decide)]
    gcongr
  rw [Binary64.lastPlace_eq above below]
  by_cases least : x.code.val < binadeCodes
  · have place : x.exponent = -1074 := by rw [exponent, if_pos least]
    omega
  · have normal : binadeCodes ≤ x.significand := by
      rw [significand, if_neg least]
      omega
    have large : ((2 : ℕ) : ℚ) ^ (52 : ℤ) ≤ x.significand := by exact_mod_cast normal
    have low : x.exponent + 52 ≤ Int.log 2 ((x.ratio.1 : ℚ) / x.ratio.2) := by
      rw [← Int.zpow_le_iff_le_log (by decide) value, ratio_value, add_comm, zpow_add₀ (by decide)]
      gcongr
    omega

theorem scaleBinary_ratio (x : Finite64) : ∃ k, 0 < k ∧
    scaleBinary x.ratio.1 x.ratio.2 x.exponent = (x.significand * k, k) := by
  unfold scaleBinary ratio
  split
  · exact ⟨Nat.pow 2 x.exponent.toNat, Nat.pow_pos (by decide), by simp⟩
  · exact ⟨Nat.pow 2 (-x.exponent).toNat, Nat.pow_pos (by decide), rfl⟩

/-- The exact value is rounded to the number. -/
theorem ofRatio_ratio {x : Finite64} (nonzero : x.code.val ≠ 0) :
    ofRatio x.negative x.ratio.1 x.ratio.2 = .finite x := by
  obtain ⟨k, positive, scaled⟩ := x.scaleBinary_ratio
  have rounded : Binary64.codeOfRatio x.ratio.1 x.ratio.2 = x.code.val := by
    rw [Binary64.codeOfRatio, lastPlace_ratio nonzero, scaled]
    dsimp only
    rw [Binary64.roundEven_exact _ positive, x.code_eq]
  rw [Binary64.ofRatio_eq_ofCode _ (ratio_positive nonzero).1, rounded, Binary64.ofCode,
    dif_pos x.code.isLt]

/-! ## The decimal of a number -/

theorem length_digits_whole (x : Finite64) :
    (Text.digits (x.significand * 2 ^ x.exponent.toNat)).length ≤ 310 := by
  have bounds := x.exponent_bounds
  refine (Nat.length_toDigits_le_iff (by decide) (by decide)).mpr ?_
  calc x.significand * 2 ^ x.exponent.toNat
      ≤ x.significand * 2 ^ 971 :=
        Nat.mul_le_mul_left _ (Nat.pow_le_pow_right (by decide) (by omega))
    _ < 2 * binadeCodes * 2 ^ 971 :=
        Nat.mul_lt_mul_of_pos_right x.significand_lt (Nat.pow_pos (by decide))
    _ < 10 ^ 310 := by decide +kernel

/-- With `k` places behind the point, about as many digits, as two to the 1074 has 324 digits. -/
theorem length_digits_fraction {x : Finite64} (nonzero : x.code.val ≠ 0) {k : Nat}
    (places : k ≤ 1074) : (Text.digits (x.significand * 5 ^ k)).length ≤ 16 + k ∧
      k ≤ (Text.digits (x.significand * 5 ^ k)).length + 324 := by
  constructor
  · refine (Nat.length_toDigits_le_iff (by decide) (by omega)).mpr ?_
    calc x.significand * 5 ^ k
        < 2 * binadeCodes * 5 ^ k :=
          Nat.mul_lt_mul_of_pos_right x.significand_lt (Nat.pow_pos (by decide))
      _ ≤ 10 ^ 16 * 10 ^ k :=
          Nat.mul_le_mul (by decide) (Nat.pow_le_pow_left (by decide) k)
      _ = 10 ^ (16 + k) := by rw [Nat.pow_add]
  · by_contra short
    have filled : 0 < (Text.digits (x.significand * 5 ^ k)).length :=
      List.length_pos_iff.mpr (Text.digits_ne_nil _)
    obtain ⟨n, same⟩ : ∃ n, k = n + 325 := ⟨k - 325, by omega⟩
    have small : x.significand * 5 ^ k < 10 ^ n :=
      (Nat.length_toDigits_le_iff (by decide) (by omega)).mp (by rw [Text.digits] at short; omega)
    have parts : 10 ^ n * 10 ^ 325 = 2 ^ k * 5 ^ k := by rw [← Nat.pow_add, ← Nat.mul_pow, same]
    have wide : 2 ^ k < 10 ^ 325 :=
      Nat.lt_of_le_of_lt (Nat.pow_le_pow_right (by decide) places) (by decide +kernel)
    generalize 10 ^ 325 = tens at parts wide
    refine Nat.lt_irrefl (tens * 5 ^ k) ?_
    calc tens * 5 ^ k
        ≤ tens * (x.significand * 5 ^ k) :=
          Nat.mul_le_mul_left _ (Nat.le_mul_of_pos_left _ (significand_positive nonzero))
      _ ≤ tens * 10 ^ n := Nat.mul_le_mul_left _ small.le
      _ = 2 ^ k * 5 ^ k := by rw [Nat.mul_comm, parts]
      _ < tens * 5 ^ k := Nat.mul_lt_mul_of_pos_right wide (Nat.pow_pos (by decide))

/-- A number written out in full is read as itself. -/
theorem ofDecimal_exactDecimal {x : Finite64} (nonzero : x.code.val ≠ 0) :
    ofDecimal x.negative x.exactDecimal = .finite x := by
  have whole := significand_positive nonzero
  have bounds := x.exponent_bounds
  rw [← ofRatio_ratio nonzero]
  unfold exactDecimal ratio
  split
  · next up =>
    have long := x.length_digits_whole
    have filled : x.significand * 2 ^ x.exponent.toNat ≠ 0 := by positivity
    simp only [ofDecimal, Nat.pow_eq, filled, false_or]
    rw [if_neg (by omega), if_neg (by omega), if_pos le_rfl]
    simp
  · next down =>
    obtain ⟨k, same⟩ : ∃ k : Nat, x.exponent = -k := ⟨(-x.exponent).toNat, by omega⟩
    have long := length_digits_fraction nonzero (show k ≤ 1074 by omega)
    have filled : x.significand * 5 ^ k ≠ 0 := by positivity
    simp only [ofDecimal, Nat.pow_eq, same, Int.neg_neg, Int.toNat_natCast, filled, false_or]
    rw [if_neg (by omega), if_neg (by omega), if_neg (by omega)]
    -- Over the power of ten, the power of five is a common factor.
    have power (b : Nat) (positive : 0 < b) : 0 < b ^ k := Nat.pow_pos positive
    have reduced := Binary64.ofRatio_mul x.negative x.significand (power 2 (by decide))
      (power 5 (by decide))
    rwa [← Nat.mul_pow] at reduced

/-- The decimal that is chosen for a number is read as the number. -/
theorem ofDecimal_shortest (tie : Tie) (x : Finite64) :
    ofDecimal x.negative (x.shortest tie) = .finite x := by
  unfold shortest
  split
  · next zero =>
    have same : Finite64.zero x.negative = x :=
      congrArg (Finite64.mk x.negative) (Fin.ext zero.symm)
    simp [ofDecimal, same]
  · next nonzero =>
    rw [Binary64.ofDecimal_reduced]
    cases found : shortest? tie x with
    | some d => exact ofDecimal_shortest_of_some found
    | none => exact ofDecimal_exactDecimal nonzero

/-- Only zero has no first digit. -/
theorem coefficient_shortest (tie : Tie) (x : Finite64) :
    0 < (x.shortest tie).coefficient ∨ x.shortest tie = ⟨0, 0⟩ := by
  rcases Nat.eq_zero_or_pos (x.shortest tie).coefficient with zero | positive
  · have read := ofDecimal_shortest tie x
    rw [ofDecimal, if_pos (.inl zero)] at read
    have code : x.code.val = 0 := by rw [← Binary64.finite.inj read, Finite64.zero]
    exact .inr (if_pos code)
  · exact .inl positive

end BoundQuery.Finite64
