import Wireframe.Number.Binary64
import Wireframe.Text.Digits

/-!
# Decimal numerals

The number nearest to a decimal `digits · 10^exponent`, and the decimal texts of a number: with a
fixed count of places or of significant digits, and with the fewest digits that read back as the
same number.
-/
namespace Wireframe

namespace Binary64

/-- A power of ten; `1` for negative exponents. -/
def tenTo (exponent : Int) : Nat := Nat.pow 10 exponent.toNat

/-! ## Reading -/

/-- The number nearest to `digits · 10^exponent`. Far beyond the range the power is not computed:
the result is infinite or zero there. -/
def ofDecimal (negative : Bool) (digits : Nat) (exponent : Int) : Binary64 :=
  if digits = 0 then finite negative .zero
  else if 400 < exponent then infinite negative
  else if (Nat.toDigits 10 digits).length + exponent < -400 then finite negative .zero
  else ofQuotient negative (digits * unitsPerOne * tenTo exponent) (tenTo (-exponent))

/-! ## Digits with a point

A decimal is written from its digits and the place of the point: `point` digits stand before it,
or zeros make up for those that are missing. -/

/-- A fraction after its point; without digits the point is left out unless it is to be kept. -/
def withPoint (keepPoint : Bool) (fraction : Text) : Text :=
  if fraction.isEmpty && !keepPoint then [] else "." ++ fraction

/-- The digits with zeros after them, up to `count`. -/
def padZeros (count : Nat) (ds : Text) : Text := ds ++ List.replicate (count - ds.length) 0x30

/-- Written without an exponent, with at least `places` digits after the point. -/
def positional (keepPoint : Bool) (places : Nat) (ds : Text) (point : Int) : Text :=
  let whole : Text := if point ≤ 0 then "0" else padZeros point.toNat (ds.take point.toNat)
  let fraction := List.replicate (-point).toNat 0x30 ++ ds.drop point.toNat
  whole ++ withPoint keepPoint (padZeros places fraction)

/-- Written with an exponent of at least two digits. -/
def scientific (keepPoint : Bool) (ds : Text) (point : Int) : Text :=
  let power := point - 1
  .concat [ds.take 1, withPoint keepPoint (ds.drop 1), "e",
    if power < 0 then "-" else "+", if power.natAbs < 10 then "0" else "", .ofNat power.natAbs]

/-! ## A fixed count of digits

These texts are of magnitudes in units, without a sign. A tie goes to the even neighbour. -/

/-- With `places` digits after the point. -/
def fixedText (keepPoint : Bool) (places units : Nat) : Text :=
  let ds := Text.ofNat (roundQuotient (units * tenTo places) unitsPerOne)
  let ds := List.replicate (places + 1 - ds.length) 0x30 ++ ds
  positional keepPoint places ds (ds.length - places)

/-- The least `k` from `start` on with `10^k` units above `units`, at most `fuel` further. -/
def leadingPlace (units : Nat) : Nat → Nat → Nat
  | 0, start => start
  | fuel + 1, start =>
    if unitsPerOne ≤ units * tenTo start then start else leadingPlace units fuel (start + 1)

/-- The exponent of ten of the first significant digit of a positive magnitude. -/
def decimalExponent (units : Nat) : Int :=
  if unitsPerOne ≤ units then ((Nat.toDigits 10 (units / unitsPerOne)).length : Int) - 1
  else -(leadingPlace units 330 1 : Int)

/-- The `count` significant digits nearest to a magnitude, and the place of their point. -/
def significantDigits (count units : Nat) : Text × Int :=
  if units = 0 then (List.replicate count 0x30, 1)
  else
    let exponent := decimalExponent units - (count - 1 : Int)
    let ds := Text.ofNat
      (roundQuotient (units * tenTo (-exponent)) (unitsPerOne * tenTo exponent))
    (ds.take count, ds.length + exponent)

/-- With an exponent and `places` digits after the point. -/
def scientificText (keepPoint : Bool) (places units : Nat) : Text :=
  let (ds, point) := significantDigits (places + 1) units
  scientific keepPoint ds point

/-- No number has more significant digits; all that follow them are zero. -/
def mostDigits : Nat := 800

/-- With `count` significant digits, positional where that needs no more digits than these, and
from `10^-4` on; zeros at the end are dropped unless the point is to be kept. With `fractional`,
a positional text has a digit after the point, which counts. -/
def generalText (keepPoint fractional : Bool) (count units : Nat) : Text :=
  let count := max count 1
  let (ds, point) := significantDigits (if keepPoint then count else min count mostDigits) units
  let ds := if keepPoint then ds else ds.take 1 ++ Text.trimEndBy (· = 0x30) (ds.drop 1)
  let places : Nat := if fractional then 1 else 0
  if -4 < point && point + places ≤ count then positional keepPoint places ds point
  else scientific keepPoint ds point

/-- The texts of what is no finite number. -/
def specialText : Binary64 → Text
  | nan => "nan"
  | infinite negative => .concat [if negative then "-" else "", "inf"]
  | finite .. => []

/-- With two places; a negative number keeps its sign even where it rounds to zero. -/
def twoPlaces : Binary64 → Text
  | finite negative magnitude =>
    .concat [if negative then "-" else "", fixedText false 2 magnitude.units]
  | x => specialText x

/-! ## The fewest digits -/

/-- The decimal with `count` digits that is nearest to a positive magnitude, as digits and the
exponent of the last one, if it reads back. -/
def readsBackWith (magnitude : Magnitude) (count : Nat) : Option (Nat × Int) :=
  let exponent := decimalExponent magnitude.units - (count - 1 : Nat)
  let num := magnitude.units * tenTo (-exponent)
  let den := unitsPerOne * tenTo exponent
  let nearest := roundQuotient num den
  let other := if nearest = num / den then nearest + 1 else nearest - 1
  let reads (digits : Nat) : Bool := ofDecimal false digits exponent = finite false magnitude
  if reads nearest then some (nearest, exponent)
  else if reads other then some (other, exponent)
  else none

/-- The fewest digits that read back, and the exponent of the last of them. -/
def shortestDecimal (magnitude : Magnitude) : Nat × Int :=
  ((List.range 17).findSome? fun k => readsBackWith magnitude (k + 1)).getD (0, 0)

/-- Without the zeros at the end; the exponent grows by their count. -/
def dropZeros : Nat → Nat → Int → Nat × Int
  | 0, digits, exponent => (digits, exponent)
  | fuel + 1, digits, exponent =>
    if digits ≠ 0 && digits % 10 = 0 then dropZeros fuel (digits / 10) (exponent + 1)
    else (digits, exponent)

/-- The text of a decimal: positional from `10^-4` up to `10^16`, and then a whole number ends in
`.0`; elsewhere with an exponent. -/
def decimalText (keepPoint : Bool) (digits : Nat) (exponent : Int) : Text :=
  let ds := Text.ofNat digits
  let point : Int := ds.length + exponent
  if -4 < point && point ≤ 16 then positional keepPoint 1 ds point
  else scientific keepPoint ds point

/-- The shortest text of a magnitude that reads back. -/
def shortestMagnitudeText (keepPoint : Bool) (magnitude : Magnitude) : Text :=
  let (digits, exponent) := shortestDecimal magnitude
  let (digits, exponent) := dropZeros 17 digits exponent
  if magnitude.units = 0 then "0.0" else decimalText keepPoint digits exponent

/-- The shortest text that reads back as the number. -/
def shortestText : Binary64 → Text
  | finite negative magnitude =>
    .concat [if negative then "-" else "", shortestMagnitudeText false magnitude]
  | x => specialText x

end Binary64

end Wireframe
