/-
# A fixed number of places after the point

The text of a word rounded to a number of decimal places, ties to the even last digit.  A
number that rounds to zero is written without a sign.
-/
import Seismogram.Decimal.Significant

namespace Seismogram.Decimal

open Seismogram.Number

/-- A word with `places` digits after the point; what is no number is `nan`. -/
def fixed {F : Format} (places : Nat) (x : Floating F) : List Char :=
  if x.isFinite then
    let units := roundedUnits places (F.magnitudeValue x.magnitude)
    sign (x.negative && decide (units ≠ 0)) ++ pointed places units
  else if x.isNaN then ['n', 'a', 'n']
  else nonFinite x

end Seismogram.Decimal
