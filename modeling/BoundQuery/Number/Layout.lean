import BoundQuery.Number.Shortest

/-!
# Written forms of binary64 numbers

Two formats. A displayed number is always positional and drops a fraction of zero. A JSON number
always has a fraction or an exponent, and takes the exponent outside `10 ^ (-5)` to `10 ^ 16`.
-/

namespace BoundQuery.Decimal

/-- All digits of a decimal with the point where it belongs. -/
def positional (d : Decimal) : List Char :=
  let ds := Text.digits d.coefficient
  if 0 ≤ d.exponent then ds ++ List.replicate d.exponent.toNat '0'
  else
    let places := (-d.exponent).toNat
    if places < ds.length then
      ds.take (ds.length - places) ++ '.' :: ds.drop (ds.length - places)
    else '0' :: '.' :: (List.replicate (places - ds.length) '0' ++ ds)

/-- The power of ten of the first digit. -/
def order (d : Decimal) : Int := d.exponent + (Text.digits d.coefficient).length - 1

/-- One digit before the point, the others behind it, and the signed power of ten. -/
def scientific (d : Decimal) : List Char :=
  let ds := Text.digits d.coefficient
  let mantissa := if ds.length ≤ 1 then ds else ds.take 1 ++ '.' :: ds.drop 1
  mantissa ++ 'e' :: (if d.order < 0 then '-' else '+') :: Text.digits d.order.natAbs

/-- The magnitude of a JSON number. -/
def json (d : Decimal) : List Char :=
  if -5 ≤ d.order ∧ d.order < 16 then
    if 0 ≤ d.exponent then d.positional ++ ['.', '0'] else d.positional
  else d.scientific

end BoundQuery.Decimal

namespace BoundQuery

def signText (negative : Bool) : List Char := if negative then ['-'] else []

/-- The JSON text of a finite number; ties between digits go to the even one. -/
def Finite64.json (x : Finite64) : List Char := signText x.negative ++ (x.shortest .toEven).json

/-- The displayed text of a number; ties between digits go up. -/
def Binary64.display : Binary64 → String
  | .finite x => String.ofList (signText x.negative ++ (x.shortest .up).positional)
  | .infinite negative => if negative then "-inf" else "inf"
  | .nan => "NaN"

end BoundQuery
