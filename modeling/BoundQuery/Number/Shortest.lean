import BoundQuery.Number.Binary64

/-!
# Shortest decimal of a binary64 number

Of the decimals that read back as a number, the one with the fewest digits is taken, and of
those with as many the nearest. On each decimal grid only the two neighbours of the number have
to be tried. If two are equally near, a tie rule decides.

Main statement: `ofDecimal_shortest_of_some`, the decimal reads back.
-/

namespace BoundQuery

/-- Which of two equally near decimals is taken. -/
inductive Tie where
  | toEven
  | up
deriving DecidableEq, Repr

namespace Finite64

/-- The fraction `num / den · 10 ^ (-place)`. -/
def scaleDecimal (num den : Nat) (place : Int) : Nat × Nat :=
  if 0 ≤ place then (num, den * Nat.pow 10 place.toNat) else (num * Nat.pow 10 (-place).toNat, den)

/-- The power of ten of the first digit of a nonzero `num / den`. -/
def firstPlace (num den : Nat) : Int :=
  let guess : Int := (Text.digits num).length - (Text.digits den).length
  let (n, d) := scaleDecimal num den guess
  if d ≤ n then guess else guess - 1

def readsBack (x : Finite64) (d : Decimal) : Bool :=
  Binary64.ofDecimal x.negative d == .finite x

/-- The neighbour of the number among the multiples of `10 ^ place` that reads back, the nearer
one if both do. -/
def onGrid (tie : Tie) (x : Finite64) (place : Int) : Option Decimal :=
  let (n, d) := scaleDecimal x.ratio.1 x.ratio.2 place
  let below : Decimal := ⟨n / d, place⟩
  let above : Decimal := ⟨n / d + 1, place⟩
  match x.readsBack below, x.readsBack above with
  | true, false => some below
  | false, true => some above
  | false, false => none
  | true, true =>
    match compare (2 * (n % d)) d with
    | .lt => some below
    | .gt => some above
    | .eq =>
      match tie with
      | .up => some above
      | .toEven => some (if n / d % 2 = 0 then below else above)

/-- The number itself, written out. -/
def exactDecimal (x : Finite64) : Decimal :=
  if 0 ≤ x.exponent then ⟨x.significand * Nat.pow 2 x.exponent.toNat, 0⟩
  else ⟨x.significand * Nat.pow 5 (-x.exponent).toNat, x.exponent⟩

/-- The first grid of one to seventeen digits with a neighbour that reads back. -/
def shortest? (tie : Tie) (x : Finite64) : Option Decimal :=
  let first := firstPlace x.ratio.1 x.ratio.2
  (List.range 17).findSome? fun (k : Nat) => onGrid tie x (first - k)

/-- The shortest decimal that reads back. -/
def shortest (tie : Tie) (x : Finite64) : Decimal :=
  if x.code.val = 0 then ⟨0, 0⟩ else ((shortest? tie x).getD x.exactDecimal).reduced

theorem readsBack_of_onGrid {tie : Tie} {x : Finite64} {place : Int} {d : Decimal}
    (h : onGrid tie x place = some d) : x.readsBack d = true := by
  simp only [onGrid] at h
  split at h
  · next hb _ => exact Option.some.inj h ▸ hb
  · next _ ha => exact Option.some.inj h ▸ ha
  · exact absurd h (by simp)
  · next hb ha =>
    split at h
    · exact Option.some.inj h ▸ hb
    · exact Option.some.inj h ▸ ha
    · cases tie with
      | up => exact Option.some.inj h ▸ ha
      | toEven =>
        simp only [Option.some.injEq] at h
        split at h
        · exact h ▸ hb
        · exact h ▸ ha

/-- What the search finds is read as the number it was found for. -/
theorem ofDecimal_shortest_of_some {tie : Tie} {x : Finite64} {d : Decimal}
    (h : shortest? tie x = some d) : Binary64.ofDecimal x.negative d = .finite x := by
  obtain ⟨_, _, _, _, found, _⟩ := List.findSome?_eq_some_iff.1 h
  simpa [readsBack] using readsBack_of_onGrid found

end Finite64

end BoundQuery
