/-!
# Decimal digits

Reading and writing of numbers as ASCII digits, on lists of characters. What `digits` writes,
`readNat` reads back, and what `padded` writes, `fixedNat`.
-/

namespace BoundQuery.Text

/-- The number written by a list of digits; the empty list is zero. -/
def natOfDigits (digits : List Char) : Nat := Nat.ofDigitChars 10 digits 0

/-- The decimal digits of a number, without leading zeros. -/
def digits (n : Nat) : List Char := Nat.toDigits 10 n

/-- The digits of a number with zeros in front up to a width. -/
def padded (width n : Nat) : List Char :=
  List.replicate (width - (digits n).length) '0' ++ digits n

/-- The digits at the head of a text and the rest. -/
def spanDigits (s : List Char) : List Char × List Char :=
  (s.takeWhile Char.isDigit, s.dropWhile Char.isDigit)

/-- A number of exactly `width` digits at the head of a text. -/
def fixedNat (width : Nat) (s : List Char) : Option (Nat × List Char) :=
  let head := s.take width
  if head.length = width ∧ head.all Char.isDigit then some (natOfDigits head, s.drop width)
  else none

/-- A number of one to `width` digits at the head of a text. -/
def boundedNat (width : Nat) (s : List Char) : Option (Nat × List Char) :=
  let head := (s.take width).takeWhile Char.isDigit
  if head = [] then none else some (natOfDigits head, s.drop head.length)

/-- A number of one or more digits at the head of a text. -/
def readNat (s : List Char) : Option (Nat × List Char) :=
  let (head, rest) := spanDigits s
  if head = [] then none else some (natOfDigits head, rest)

/-- The text of an integer: a hyphen for negative ones, then the digits. -/
def intDigits (i : Int) : List Char :=
  if i < 0 then '-' :: digits i.natAbs else digits i.natAbs

/-- An integer that fills the whole text: an optional sign and digits. -/
def readInt? (s : List Char) : Option Int :=
  let (negative, body) := match s with
    | '-' :: rest => (true, rest)
    | '+' :: rest => (false, rest)
    | _ => (false, s)
  match readNat body with
  | some (n, []) => some (if negative then -(n : Int) else n)
  | _ => none

theorem natOfDigits_digits (n : Nat) : natOfDigits (digits n) = n :=
  Nat.ofDigitChars_ten_toDigits

theorem isDigit_of_mem_digits {n : Nat} {c : Char} (h : c ∈ digits n) : c.isDigit = true :=
  Nat.isDigit_of_mem_toDigits (by decide) (by decide) h

theorem digits_ne_nil (n : Nat) : digits n ≠ [] := Nat.toDigits_ne_nil

/-- Nothing is lost when the digits are split off. -/
theorem spanDigits_append (s : List Char) : (spanDigits s).1 ++ (spanDigits s).2 = s :=
  List.takeWhile_append_dropWhile

/-- The digits in front of a text that does not go on with one are split off as they are. -/
theorem spanDigits_of_stop {digits rest : List Char} (all : ∀ c ∈ digits, c.isDigit = true)
    (stop : ∀ c ∈ rest.head?, c.isDigit = false) : spanDigits (digits ++ rest) = (digits, rest) := by
  rw [spanDigits, List.takeWhile_append_of_pos all, List.dropWhile_append_of_pos all]
  cases rest with
  | nil => simp
  | cons c rest => simp [stop c (by simp)]

/-- A number is read back in front of any text that does not go on with a digit. -/
theorem readNat_digits (n : Nat) {rest : List Char} (stop : ∀ c ∈ rest.head?, c.isDigit = false) :
    readNat (digits n ++ rest) = some (n, rest) := by
  rw [readNat, spanDigits_of_stop (fun _ => isDigit_of_mem_digits) stop]
  simp [digits_ne_nil, natOfDigits_digits]

theorem isDigit_of_mem_spanDigits {s : List Char} {c : Char} (h : c ∈ (spanDigits s).1) :
    c.isDigit = true := List.all_eq_true.mp List.all_takeWhile c h

/-! ### Numbers of a fixed width -/

/-- Digits one by one: each makes room for ten times as many numbers. -/
theorem ofDigitChars_lt {ds : List Char} (all : ∀ c ∈ ds, c.isDigit = true) (init : Nat) :
    Nat.ofDigitChars 10 ds init < (init + 1) * Nat.pow 10 ds.length := by
  induction ds generalizing init with
  | nil => simp [Nat.ofDigitChars_nil]
  | cons c ds ih =>
    have small : c.toNat - '0'.toNat < 10 := by
      have digit := all c List.mem_cons_self
      simp only [Char.isDigit, Bool.and_eq_true, decide_eq_true_eq] at digit
      have upper : c.toNat ≤ 57 := digit.2
      have zero : '0'.toNat = 48 := rfl
      omega
    rw [Nat.ofDigitChars_cons, List.length_cons]
    calc Nat.ofDigitChars 10 ds (10 * init + (c.toNat - '0'.toNat))
        < (10 * init + (c.toNat - '0'.toNat) + 1) * Nat.pow 10 ds.length :=
          ih (fun c member => all c (List.mem_cons_of_mem _ member)) _
      _ ≤ (10 * (init + 1)) * Nat.pow 10 ds.length := Nat.mul_le_mul_right _ (by omega)
      _ = (init + 1) * Nat.pow 10 (ds.length + 1) := by
          show _ = (init + 1) * (Nat.pow 10 ds.length * 10)
          rw [Nat.mul_comm 10, Nat.mul_assoc, Nat.mul_comm 10]

/-- Digits behind a number never make it smaller. -/
theorem le_ofDigitChars (ds : List Char) (init : Nat) : init ≤ Nat.ofDigitChars 10 ds init := by
  have scale : 0 < 10 ^ ds.length := Nat.pow_pos (by decide)
  rw [Nat.ofDigitChars_eq_ofDigitChars_zero]
  exact Nat.le_add_right_of_le (Nat.le_mul_of_pos_left init scale)

theorem natOfDigits_lt {ds : List Char} (all : ∀ c ∈ ds, c.isDigit = true) :
    natOfDigits ds < Nat.pow 10 ds.length := by
  have bound := ofDigitChars_lt all 0
  rwa [Nat.zero_add, Nat.one_mul] at bound

theorem length_padded {width n : Nat} (positive : 0 < width) (fits : n < Nat.pow 10 width) :
    (padded width n).length = width := by
  have short : (digits n).length ≤ width := (Nat.length_toDigits_le_iff (by decide) positive).mpr fits
  rw [padded, List.length_append, List.length_replicate]
  omega

theorem isDigit_of_mem_padded {width n : Nat} {c : Char} (h : c ∈ padded width n) :
    c.isDigit = true := by
  rcases List.mem_append.mp h with zero | digit
  · rw [List.eq_of_mem_replicate zero]
    rfl
  · exact isDigit_of_mem_digits digit

theorem natOfDigits_padded (width n : Nat) : natOfDigits (padded width n) = n := by
  rw [natOfDigits, padded, Nat.ofDigitChars_append, Nat.ofDigitChars_replicate_zero, Nat.mul_zero]
  exact natOfDigits_digits n

/-- A number of a fixed width is read back in front of any text. -/
theorem fixedNat_padded {width n : Nat} (positive : 0 < width) (fits : n < Nat.pow 10 width)
    (rest : List Char) : fixedNat width (padded width n ++ rest) = some (n, rest) := by
  have long : (padded width n).length = width := length_padded positive fits
  have all : (padded width n).all Char.isDigit = true :=
    List.all_eq_true.mpr fun _ => isDigit_of_mem_padded
  simp [fixedNat, List.take_left' long, List.drop_left' long, long, all, natOfDigits_padded]

theorem fixedNat_two {n : Nat} (below : n < 100) (rest : List Char) :
    fixedNat 2 (padded 2 n ++ rest) = some (n, rest) := fixedNat_padded (by decide) below rest

/-- What is read as a number of a fixed width is so many digits at the head. -/
theorem exists_of_fixedNat {width n : Nat} {s rest : List Char}
    (h : fixedNat width s = some (n, rest)) : ∃ head, s = head ++ rest ∧ head.length = width ∧
      (∀ c ∈ head, c.isDigit = true) ∧ natOfDigits head = n := by
  simp only [fixedNat] at h
  split at h
  · next whole =>
    cases h
    exact ⟨s.take width, (List.take_append_drop width s).symm, whole.1,
      List.all_eq_true.mp whole.2, rfl⟩
  · cases h

theorem fixedNat_lt {width n : Nat} {s rest : List Char} (h : fixedNat width s = some (n, rest)) :
    n < Nat.pow 10 width := by
  obtain ⟨head, _, rfl, all, rfl⟩ := exists_of_fixedNat h
  exact natOfDigits_lt all

end BoundQuery.Text
