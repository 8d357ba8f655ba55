import BoundQuery.Json.Writer
import BoundQuery.Json.Reader
import BoundQuery.Proofs.Rounding

/-!
# Numbers in JSON text

The text of a whole number is read back as that number. The text of a double is read digit by digit
in each of the layouts a decimal may take: with a fraction of zero, with the point among its digits,
with zeros behind the point, or with an exponent of ten. What is made of the digits is another
matter, so that the double comes back is a property that some doubles have, `ReadsBack`. What
follows must not go on with the number.

Results:
1. `isWhole_digits`: digits start with a zero only if they are that zero.
2. `spells_json`: each layout of a decimal is read by scaling its first digits.
3. `scalar_integer` / `exists_read_number`: both kinds of numbers with their signs.
4. `ReadsBack.scalar_eq`: what is read back alone is read back in front of a text.
-/

namespace BoundQuery.Json

open Text (digits natOfDigits isDigit_of_mem_digits digits_ne_nil natOfDigits_digits
  spanDigits_of_stop)

/-! ## Digits before the point -/

/-- The text does not go on with a number. -/
def AfterNumber (rest : List Char) : Prop :=
  (∀ c ∈ rest.head?, c.isDigit = false ∧ c ≠ '.') ∧ isExponentMark rest = false

theorem afterNumber_nil : AfterNumber [] := ⟨by simp, rfl⟩

/-- Digits that may stand before the point. -/
def IsWhole (s : List Char) : Prop :=
  s = ['0'] ∨ (∀ c ∈ s, c.isDigit = true) ∧ ∃ first ∈ s.head?, first ≠ '0'

theorem IsWhole.isDigit {s : List Char} (h : IsWhole s) : ∀ c ∈ s, c.isDigit = true := by
  rcases h with rfl | ⟨all, _⟩
  · simp
  · exact all

theorem IsWhole.ne_nil {s : List Char} (h : IsWhole s) : s ≠ [] := by
  rcases h with rfl | ⟨_, first, head, _⟩
  · simp
  · rintro rfl
    cases head

theorem natOfDigits_zeros (n : Nat) (s : List Char) :
    natOfDigits (List.replicate n '0' ++ s) = natOfDigits s := by
  rw [natOfDigits, Nat.ofDigitChars_append, Nat.ofDigitChars_replicate_zero, Nat.mul_zero,
    natOfDigits]

theorem natOfDigits_append_zeros (s : List Char) (n : Nat) :
    natOfDigits (s ++ List.replicate n '0') = natOfDigits s * 10 ^ n := by
  rw [natOfDigits, Nat.ofDigitChars_append, Nat.ofDigitChars_replicate_zero, Nat.mul_comm,
    natOfDigits]

theorem head_digits {n : Nat} (nonzero : 0 < n) : ∃ first ∈ (digits n).head?, first ≠ '0' := by
  cases shape : digits n with
  | nil => exact absurd shape (digits_ne_nil n)
  | cons first tail =>
    refine ⟨first, rfl, ?_⟩
    rintro rfl
    have value : natOfDigits tail = n := by
      rw [← natOfDigits_zeros 1 tail, ← natOfDigits_digits n, shape]
      rfl
    have small : n < 10 ^ tail.length := by
      rw [← value]
      refine Text.natOfDigits_lt fun c member => isDigit_of_mem_digits (n := n) ?_
      rw [shape]
      exact List.mem_cons_of_mem _ member
    -- A tail alone would be long enough for the number.
    rcases Nat.eq_zero_or_pos tail.length with none | some
    · rw [none] at small
      omega
    · have short := (Nat.length_toDigits_le_iff (by decide) some).mpr small
      rw [← Text.digits, shape, List.length_cons] at short
      omega

theorem isWhole_digits (n : Nat) : IsWhole (digits n) := by
  rcases Nat.eq_zero_or_pos n with rfl | nonzero
  · exact .inl rfl
  · exact .inr ⟨fun _ => isDigit_of_mem_digits, head_digits nonzero⟩

theorem isWhole_digits_append {n : Nat} (nonzero : 0 < n) {s : List Char}
    (all : ∀ c ∈ s, c.isDigit = true) : IsWhole (digits n ++ s) := by
  obtain ⟨first, head, other⟩ := head_digits nonzero
  refine .inr ⟨fun c member => ?_, first, ?_, other⟩
  · rcases List.mem_append.mp member with member | member
    · exact isDigit_of_mem_digits member
    · exact all c member
  · rw [List.head?_append_of_ne_nil _ (digits_ne_nil n)]
    exact head

theorem isWhole_take_digits {n k : Nat} (nonzero : 0 < n) (some : 0 < k) :
    IsWhole ((digits n).take k) := by
  obtain ⟨first, head, other⟩ := head_digits nonzero
  have kept : first ∈ ((digits n).take k).head? := by
    rw [List.head?_take, if_neg (Nat.ne_of_gt some)]
    exact head
  exact .inr ⟨fun c member => isDigit_of_mem_digits (List.mem_of_mem_take member), first, kept,
    other⟩

theorem wholeDigits_append {whole rest : List Char} (h : IsWhole whole)
    (stop : ∀ c ∈ rest.head?, c.isDigit = false) :
    wholeDigits (whole ++ rest) = some (whole, rest) := by
  have split : Text.spanDigits (whole ++ rest) = (whole, rest) :=
    spanDigits_of_stop h.isDigit stop
  unfold wholeDigits
  split
  · next c behind same =>
    rcases h with rfl | ⟨_, first, head, other⟩
    · cases same
      simp [stop c rfl]
    · cases whole with
      | nil => cases head
      | cons d whole =>
        cases head
        exact absurd (List.head_eq_of_cons_eq same) other
  · simp [split, h.ne_nil]

/-! ## Fractions and exponents -/

theorem fractionDigits_none {rest : List Char} (stop : ∀ c ∈ rest.head?, c ≠ '.') :
    fractionDigits rest = some (none, rest) := by
  unfold fractionDigits
  split
  · exact absurd rfl (stop '.' rfl)
  · rfl

theorem fractionDigits_point {fraction rest : List Char} (filled : fraction ≠ [])
    (all : ∀ c ∈ fraction, c.isDigit = true) (stop : ∀ c ∈ rest.head?, c.isDigit = false) :
    fractionDigits ('.' :: (fraction ++ rest)) = some (some fraction, rest) := by
  simp [fractionDigits, spanDigits_of_stop all stop, filled]

theorem readExponent_none {rest : List Char} (stop : isExponentMark rest = false) :
    Binary64.readExponent rest = some (0, rest) := by
  unfold Binary64.readExponent
  split
  · next c behind =>
    simp only [isExponentMark, Bool.or_eq_false_iff, beq_eq_false_iff_ne] at stop
    rw [if_neg (by simp [stop])]
  · rfl

/-- A signed power of ten is read back. -/
theorem readExponent_mark (i : Int) {rest : List Char}
    (stop : ∀ c ∈ rest.head?, c.isDigit = false) :
    Binary64.readExponent ('e' :: (if i < 0 then '-' else '+') :: (digits i.natAbs ++ rest)) =
      some (i, rest) := by
  have read := Text.readNat_digits i.natAbs stop
  by_cases negative : i < 0
  · simp [Binary64.readExponent, negative, read, abs_of_neg negative]
  · simp [Binary64.readExponent, negative, read, abs_of_nonneg (Int.not_lt.mp negative)]

/-! ## Magnitudes -/

variable {negative : Bool} {whole fraction rest : List Char}

theorem magnitude_whole (h : IsWhole whole) (after : AfterNumber rest) :
    magnitude negative (whole ++ rest) =
      (ofInteger? negative whole).map fun v => (v, rest) := by
  have head := wholeDigits_append h fun c member => (after.1 c member).1
  have point := fractionDigits_none fun c member => (after.1 c member).2
  simp [magnitude, head, point, after.2]

theorem magnitude_fraction (h : IsWhole whole) (filled : fraction ≠ [])
    (all : ∀ c ∈ fraction, c.isDigit = true) {behind : List Char} {exponent : Int}
    (stop : ∀ c ∈ behind.head?, c.isDigit = false)
    (read : Binary64.readExponent behind = some (exponent, rest)) :
    magnitude negative (whole ++ '.' :: (fraction ++ behind)) =
      ((Decimal.leading whole fraction exponent).scaled? negative).map
        fun x => (number x, rest) := by
  have head : wholeDigits (whole ++ '.' :: (fraction ++ behind)) =
      some (whole, '.' :: (fraction ++ behind)) := wholeDigits_append h (by simp)
  have point := fractionDigits_point filled all stop
  simp [magnitude, head, point, read]

theorem magnitude_exponent (h : IsWhole whole) {behind : List Char} {exponent : Int}
    (read : Binary64.readExponent ('e' :: behind) = some (exponent, rest)) :
    magnitude negative (whole ++ 'e' :: behind) =
      ((Decimal.leading whole [] exponent).scaled? negative).map fun x => (number x, rest) := by
  have head : wholeDigits (whole ++ 'e' :: behind) = some (whole, 'e' :: behind) :=
    wholeDigits_append h (by simp)
  have point : fractionDigits ('e' :: behind) = some (none, 'e' :: behind) :=
    fractionDigits_none (by simp)
  simp [magnitude, head, point, isExponentMark, read]

/-! ## Layouts of a decimal -/

/-- The text starts with a digit and is read by scaling the first digits of the decimal, all of them
if the coefficient fits, whatever follows that does not go on with the number. -/
structure Spells (s : List Char) (d : Decimal) : Prop where
  digit : ∃ c tail, s = c :: tail ∧ c.isDigit = true
  read : ∃ leading : Decimal, (d.coefficient < 0x10000000000000000 → leading = d) ∧
    ∀ negative rest, AfterNumber rest →
      magnitude negative (s ++ rest) = (leading.scaled? negative).map fun x => (number x, rest)

/-- The exponent that is read behind a number, also where none is written. -/
def ReadsExponent (behind : List Char) (exponent : Int) : Prop :=
  ∀ rest, AfterNumber rest → Binary64.readExponent (behind ++ rest) = some (exponent, rest) ∧
    ∀ c ∈ (behind ++ rest).head?, c.isDigit = false

theorem readsExponent_nil : ReadsExponent [] 0 := fun _ after =>
  ⟨readExponent_none after.2, fun c member => (after.1 c member).1⟩

theorem readsExponent_mark (i : Int) :
    ReadsExponent ('e' :: (if i < 0 then '-' else '+') :: digits i.natAbs) i := fun _ after =>
  ⟨readExponent_mark i fun c member => (after.1 c member).1, by simp⟩

theorem IsWhole.digit_append (h : IsWhole whole) (behind : List Char) :
    ∃ c tail, whole ++ behind = c :: tail ∧ c.isDigit = true := by
  obtain ⟨c, tail, rfl⟩ := List.exists_cons_of_ne_nil h.ne_nil
  exact ⟨c, tail ++ behind, rfl, h.isDigit c List.mem_cons_self⟩

theorem spells_fraction (h : IsWhole whole) (filled : fraction ≠ [])
    (all : ∀ c ∈ fraction, c.isDigit = true) {behind : List Char} {exponent : Int}
    (read : ReadsExponent behind exponent) :
    Spells (whole ++ '.' :: (fraction ++ behind)) (Decimal.ofParts whole fraction exponent) := by
  refine ⟨h.digit_append _, Decimal.leading whole fraction exponent,
    fun fits => Decimal.leading_of_fits fits exponent, fun negative rest after => ?_⟩
  obtain ⟨read, stop⟩ := read rest after
  rw [List.append_assoc, List.cons_append, List.append_assoc,
    magnitude_fraction h filled all stop read]

theorem spells_exponent (h : IsWhole whole) {behind : List Char} {exponent : Int}
    (read : ReadsExponent ('e' :: behind) exponent) :
    Spells (whole ++ 'e' :: behind) (Decimal.ofParts whole [] exponent) := by
  have fits : Text.natOfDigits (whole ++ []) < 0x10000000000000000 →
      Decimal.leading whole [] exponent = Decimal.ofParts whole [] exponent :=
    fun fits => Decimal.leading_of_fits fits exponent
  refine ⟨h.digit_append _, Decimal.leading whole [] exponent, fits, fun negative rest after => ?_⟩
  rw [List.append_assoc]
  exact magnitude_exponent h (read rest after).1

theorem isDigit_of_mem_zeros {n : Nat} {c : Char} (h : c ∈ List.replicate n '0') :
    c.isDigit = true := by
  rw [List.eq_of_mem_replicate h]
  rfl

theorem isWhole_positional {d : Decimal} (lead : 0 < d.coefficient ∨ d = ⟨0, 0⟩) :
    IsWhole (digits d.coefficient ++ List.replicate d.exponent.toNat '0') := by
  rcases lead with nonzero | rfl
  · exact isWhole_digits_append nonzero fun _ => isDigit_of_mem_zeros
  · exact .inl rfl

theorem spells_pointZero {d : Decimal} (lead : 0 < d.coefficient ∨ d = ⟨0, 0⟩)
    (up : 0 ≤ d.exponent) :
    Spells (d.positional ++ ['.', '0']) ⟨d.coefficient * 10 ^ (d.exponent.toNat + 1), -1⟩ := by
  obtain ⟨c, e⟩ := d
  obtain ⟨n, rfl⟩ := Int.eq_ofNat_of_zero_le up
  have whole : IsWhole (digits c ++ List.replicate n '0') := isWhole_positional lead
  have layout : Decimal.positional ⟨c, n⟩ ++ ['.', '0'] =
      (digits c ++ List.replicate n '0') ++ '.' :: (['0'] ++ []) := by
    simp [Decimal.positional]
  have value : Decimal.ofParts (digits c ++ List.replicate n '0') ['0'] 0 =
      ⟨c * 10 ^ (n + 1), -1⟩ := by
    rw [Decimal.ofParts, List.append_assoc, show ['0'] = List.replicate 1 '0' from rfl,
      List.replicate_append_replicate, natOfDigits_append_zeros, natOfDigits_digits]
    rfl
  have zero : ∀ c ∈ ['0'], c.isDigit = true := by simp
  have spelled := spells_fraction whole (List.cons_ne_nil '0' []) zero readsExponent_nil
  rwa [value, ← layout] at spelled

theorem spells_positional {d : Decimal} (nonzero : 0 < d.coefficient) (down : ¬0 ≤ d.exponent) :
    Spells d.positional d := by
  have all : ∀ c ∈ digits d.coefficient, c.isDigit = true := fun _ => isDigit_of_mem_digits
  obtain ⟨c, e⟩ := d
  replace nonzero : 0 < c := nonzero
  replace down : ¬0 ≤ e := down
  obtain ⟨places, rfl⟩ : ∃ places : Nat, e = -places := ⟨(-e).toNat, by omega⟩
  have some : 0 < places := by omega
  simp only [Decimal.positional, if_neg down, Int.neg_neg, Int.toNat_natCast]
  split
  · next inside =>
    have filled : (digits c).drop ((digits c).length - places) ≠ [] := by
      simp only [ne_eq, List.drop_eq_nil_iff]
      omega
    have value : Decimal.ofParts ((digits c).take ((digits c).length - places))
        ((digits c).drop ((digits c).length - places)) 0 = ⟨c, -places⟩ := by
      rw [Decimal.ofParts, List.take_append_drop, natOfDigits_digits, List.length_drop]
      congr 1
      omega
    have whole : IsWhole ((digits c).take ((digits c).length - places)) :=
      isWhole_take_digits nonzero (by omega)
    have spelled := spells_fraction whole filled
      (fun c member => all c (List.mem_of_mem_drop member)) readsExponent_nil
    rwa [value, List.append_nil] at spelled
  · next outside =>
    have filled : List.replicate (places - (digits c).length) '0' ++ digits c ≠ [] := by
      simp [digits_ne_nil]
    have value : Decimal.ofParts ['0']
        (List.replicate (places - (digits c).length) '0' ++ digits c) 0 = ⟨c, -places⟩ := by
      rw [Decimal.ofParts, show ['0'] = List.replicate 1 '0' from rfl, natOfDigits_zeros,
        natOfDigits_zeros, natOfDigits_digits, List.length_append, List.length_replicate]
      congr 1
      omega
    have fraction : ∀ d ∈ List.replicate (places - (digits c).length) '0' ++ digits c,
        d.isDigit = true := fun d member =>
      (List.mem_append.mp member).elim isDigit_of_mem_zeros (all d)
    have spelled := spells_fraction (.inl rfl) filled fraction readsExponent_nil
    rwa [value, List.append_nil] at spelled

theorem spells_scientific {d : Decimal} (nonzero : 0 < d.coefficient) : Spells d.scientific d := by
  have read := readsExponent_mark d.order
  have all : ∀ c ∈ digits d.coefficient, c.isDigit = true := fun _ => isDigit_of_mem_digits
  obtain ⟨c, e⟩ := d
  have order : Decimal.order ⟨c, e⟩ = e + (digits c).length - 1 := rfl
  simp only [Decimal.scientific]
  split
  · next one =>
    have some : 0 < (digits c).length := List.length_pos_iff.mpr (digits_ne_nil c)
    have value : Decimal.ofParts (digits c) [] (Decimal.order ⟨c, e⟩) = ⟨c, e⟩ := by
      rw [Decimal.ofParts, List.append_nil, natOfDigits_digits, order, List.length_nil]
      congr 1
      omega
    have spelled := spells_exponent (isWhole_digits c) read
    rwa [value] at spelled
  · next several =>
    have filled : (digits c).drop 1 ≠ [] := by
      simp only [ne_eq, List.drop_eq_nil_iff]
      omega
    have value : Decimal.ofParts ((digits c).take 1) ((digits c).drop 1)
        (Decimal.order ⟨c, e⟩) = ⟨c, e⟩ := by
      rw [Decimal.ofParts, List.take_append_drop, natOfDigits_digits, List.length_drop, order]
      congr 1
      omega
    have spelled := spells_fraction (isWhole_take_digits nonzero Nat.one_pos) filled
      (fun c member => all c (List.mem_of_mem_drop member)) read
    rwa [value, ← List.cons_append, ← List.append_assoc] at spelled

/-- The digits that are written for a decimal in JSON, the zero behind the point included. -/
def written (d : Decimal) : Decimal :=
  if (-5 ≤ d.order ∧ d.order < 16) ∧ 0 ≤ d.exponent then
    ⟨d.coefficient * 10 ^ (d.exponent.toNat + 1), -1⟩
  else d

/-- Each layout of a decimal is read by scaling. -/
theorem spells_json {d : Decimal} (lead : 0 < d.coefficient ∨ d = ⟨0, 0⟩) :
    Spells d.json (written d) := by
  unfold Decimal.json written
  by_cases near : -5 ≤ d.order ∧ d.order < 16
  · rw [if_pos near]
    by_cases up : 0 ≤ d.exponent
    · rw [if_pos up, if_pos ⟨near, up⟩]
      exact spells_pointZero lead up
    · rw [if_neg up, if_neg fun both => up both.2]
      rcases lead with nonzero | rfl
      · exact spells_positional nonzero up
      · exact absurd le_rfl up
  · rw [if_neg near, if_neg fun both => near both.1]
    rcases lead with nonzero | rfl
    · exact spells_scientific nonzero
    · exact absurd (by decide) near

/-! ## Signs -/

theorem isDigit_head_of_wholeDigits {s : List Char} {read : List Char × List Char}
    (h : wholeDigits s = some read) : ∃ c tail, s = c :: tail ∧ c.isDigit = true := by
  unfold wholeDigits at h
  split at h
  · next c tail => exact ⟨'0', c :: tail, rfl, rfl⟩
  · cases s with
    | nil => cases h
    | cons c tail =>
      refine ⟨c, tail, rfl, ?_⟩
      by_contra other
      simp [Text.spanDigits, other] at h

/-- What is read as a magnitude starts with a digit. -/
theorem isDigit_head_of_magnitude {s : List Char} {read : Json × List Char}
    (h : magnitude negative s = some read) : ∃ c tail, s = c :: tail ∧ c.isDigit = true := by
  simp only [magnitude, bind, Option.bind_eq_some_iff] at h
  obtain ⟨whole, head, _⟩ := h
  exact isDigit_head_of_wholeDigits head

theorem scalar_of_digit {c : Char} (digit : c.isDigit = true) (tail : List Char) :
    scalar (c :: tail) = magnitude false (c :: tail) := by
  unfold scalar
  -- None of the marks that start another scalar is a digit.
  split <;> next same => first | (cases same; cases digit) | rfl

theorem scalar_integer (i : WideInt) (after : AfterNumber rest) :
    scalar (Text.intDigits i.val ++ rest) = some (integer i, rest) := by
  have whole := isWhole_digits i.val.natAbs
  unfold Text.intDigits
  split
  · next below =>
    have nonzero : i.val.natAbs ≠ 0 := by omega
    have fits : WideInt.ofInt? (-(i.val.natAbs : Int)) = some i := by
      rw [show -(i.val.natAbs : Int) = i.val by omega, WideInt.ofInt?_val]
    have exact : ofInteger? true (digits i.val.natAbs) = some (integer i) := by
      rw [ofInteger?, natOfDigits_digits, if_pos rfl, if_neg nonzero, fits]
    show magnitude true (digits i.val.natAbs ++ rest) = _
    rw [magnitude_whole whole after, exact]
    rfl
  · next above =>
    have fits : WideInt.ofInt? (i.val.natAbs : Int) = some i := by
      rw [show (i.val.natAbs : Int) = i.val by omega, WideInt.ofInt?_val]
    have exact : ofInteger? false (digits i.val.natAbs) = some (integer i) := by
      rw [ofInteger?, natOfDigits_digits, if_neg Bool.false_ne_true, fits]
    obtain ⟨c, tail, shape, digit⟩ := whole.digit_append rest
    rw [shape, scalar_of_digit digit, ← shape, magnitude_whole whole after, exact]
    rfl

/-- The text of a number starts with a hyphen or a digit. -/
theorem head_json (x : Finite64) : ∃ c tail, x.json = c :: tail ∧ (c = '-' ∨ c.isDigit = true) := by
  obtain ⟨c, tail, shape, digit⟩ := (spells_json (x.coefficient_shortest .toEven)).digit
  unfold Finite64.json
  cases x.negative with
  | false => exact ⟨c, tail, shape, .inr digit⟩
  | true => exact ⟨'-', _, rfl, .inl rfl⟩

theorem value_number (x : Finite64) (depth : Nat) (rest : List Char) :
    value depth (x.json ++ rest) = scalar (x.json ++ rest) := by
  obtain ⟨c, tail, shape, head⟩ := head_json x
  have noBracket : c ≠ '[' ∧ c ≠ '\x7b' := by
    constructor <;> rintro rfl <;> rcases head with head | head <;> cases head
  rw [shape]
  cases depth with
  | zero => rfl
  | succ depth =>
    unfold value
    split
    · next same => exact absurd (List.head_eq_of_cons_eq same) noBracket.1
    · next same => exact absurd (List.head_eq_of_cons_eq same) noBracket.2
    · rfl

theorem isBlank_of_isDigit {c : Char} (digit : c.isDigit = true) : isBlank c = false := by
  by_contra blank
  simp only [isBlank, Bool.not_eq_false, Bool.or_eq_true, beq_iff_eq] at blank
  rcases blank with ((rfl | rfl) | rfl) | rfl <;> cases digit

theorem isBlank_head_json (x : Finite64) :
    ∃ c tail, x.json = c :: tail ∧ isBlank c = false ∧ c ≠ ']' := by
  obtain ⟨c, tail, shape, rfl | digit⟩ := head_json x
  · exact ⟨'-', tail, shape, by decide, by decide⟩
  · refine ⟨c, tail, shape, isBlank_of_isDigit digit, ?_⟩
    rintro rfl
    cases digit

/-- A number is read as what scaling makes of its first digits, alone and in front of a text. -/
theorem exists_read_number (x : Finite64) : ∃ leading : Decimal,
    ((written (x.shortest .toEven)).coefficient < 0x10000000000000000 →
      leading = written (x.shortest .toEven)) ∧
    (∀ rest, AfterNumber rest →
      scalar (x.json ++ rest) = (leading.scaled? x.negative).map fun y => (number y, rest)) ∧
    ofSource? (number x).text = (leading.scaled? x.negative).map number := by
  obtain ⟨⟨c, tail, shape, digit⟩, leading, fits, read⟩ :=
    spells_json (x.coefficient_shortest .toEven)
  have inFront (rest : List Char) (after : AfterNumber rest) :
      scalar (x.json ++ rest) = (leading.scaled? x.negative).map fun y => (number y, rest) := by
    rw [← read x.negative rest after]
    unfold Finite64.json
    cases x.negative with
    | false =>
      show scalar ((x.shortest .toEven).json ++ rest) = _
      rw [shape]
      exact scalar_of_digit digit _
    | true => rfl
  refine ⟨leading, fits, inFront, ?_⟩
  have alone := inFront [] afterNumber_nil
  rw [← value_number x maxDepth, List.append_nil] at alone
  obtain ⟨first, behind, head, noBlank, _⟩ := isBlank_head_json x
  have start : skipBlanks x.json = x.json := by simp [head, skipBlanks, noBlank]
  rw [ofSource?, text, write, String.toList_ofList, start, alone]
  cases leading.scaled? x.negative <;> rfl

end BoundQuery.Json

namespace BoundQuery.Finite64

open Json (AfterNumber exists_read_number ofSource? scalar written)

/-- The JSON text of the number is read as the number. Not every number is; for the text of some
the nearest number is another one than scaling makes. -/
def ReadsBack (x : Finite64) : Prop := ofSource? (Json.number x).text = some (.number x)

/-- What is read alone is read in front of a text. -/
theorem ReadsBack.scalar_eq {x : Finite64} (h : x.ReadsBack) {rest : List Char}
    (after : AfterNumber rest) : scalar (x.json ++ rest) = some (.number x, rest) := by
  obtain ⟨leading, _, inFront, alone⟩ := exists_read_number x
  rw [ReadsBack, alone] at h
  obtain ⟨y, scaled, same⟩ := Option.map_eq_some_iff.mp h
  rw [inFront rest after, scaled, Option.map_some, same]

theorem readsBack_of_scaled {x : Finite64}
    (fits : (written (x.shortest .toEven)).coefficient < 0x10000000000000000)
    (scaled : (written (x.shortest .toEven)).scaled? x.negative = some x) : x.ReadsBack := by
  obtain ⟨leading, same, _, alone⟩ := exists_read_number x
  rw [ReadsBack, alone, same fits, scaled]
  rfl

end BoundQuery.Finite64
