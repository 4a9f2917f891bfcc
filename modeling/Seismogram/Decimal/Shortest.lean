/-
# The fewest digits that read back

The numbers that round to a given word form an interval around it: they reach half way to
the word below and half way to the word above, and the ends belong to it when the word's
magnitude is even.  Among the decimals in that interval the text uses one with as few
digits as possible, and of those the one nearest to the word; of two equally near, the
larger.

A grid is the multiples of one power of ten.  If any point of a grid lies in the interval,
then so does one of the two points next to the word, so that going through the grids from
the coarsest on and looking at two points of each finds the fewest digits.
-/
import Seismogram.Decimal.Significant

namespace Seismogram.Decimal

open Seismogram.Number

/-- The numbers that round to one magnitude. -/
structure Neighbourhood where
  low : Rat
  /-- The number itself. -/
  centre : Rat
  high : Rat
  /-- Whether the ends belong to it. -/
  closed : Bool

/-- The neighbourhood of a positive finite magnitude. -/
def Neighbourhood.of (F : Format) (magnitude : Nat) : Neighbourhood :=
  let centre := F.magnitudeValue magnitude
  { low := (F.magnitudeValue (magnitude - 1) + centre) / 2
    centre := centre
    high := (centre + F.magnitudeValue (magnitude + 1)) / 2
    closed := magnitude % 2 == 0 }

/-- Membership of a neighbourhood. -/
def Neighbourhood.contains (n : Neighbourhood) (r : Rat) : Bool :=
  if n.closed then decide (n.low ≤ r) && decide (r ≤ n.high)
  else decide (n.low < r) && decide (r < n.high)

/-- A natural number of units of a power of ten. -/
structure Scaled where
  /-- The number of units. -/
  coefficient : Nat
  /-- The exponent of the unit. -/
  exponent : Int
deriving DecidableEq, Repr

/-- The number that a scaled natural number stands for. -/
def Scaled.value (s : Scaled) : Rat := s.coefficient * 10 ^ s.exponent

/-- The point of one grid that stands for a word, if any is near enough: of the points next
to the word on either side, one in the neighbourhood, the nearer if both are, the upper
of two equally near. -/
def Neighbourhood.gridPoint? (n : Neighbourhood) (exponent : Int) : Option Scaled :=
  let below := (n.centre / 10 ^ exponent).floor.toNat
  let lower : Scaled := ⟨below, exponent⟩
  let upper : Scaled := ⟨below + 1, exponent⟩
  match n.contains lower.value, n.contains upper.value with
  | true, true =>
    if n.centre - lower.value < upper.value - n.centre then some lower else some upper
  | true, false => some lower
  | false, true => some upper
  | false, false => none

/-- More digits than this are never needed to tell two words of 64 bits apart. -/
def mostDigits : Nat := 17

/-- The shortest decimal of a positive finite magnitude. -/
def shortestScaled (F : Format) (magnitude : Nat) : Scaled :=
  let n := Neighbourhood.of F magnitude
  let top := log10Floor n.centre + 1
  ((List.range (mostDigits + 1)).findSome? fun (finer : Nat) => n.gridPoint? (top - finer)).getD ⟨0, 0⟩

/-- The text of a scaled natural number, by position whatever its size. -/
def Scaled.text (s : Scaled) : List Char :=
  if 0 ≤ s.exponent then digits s.coefficient ++ List.replicate s.exponent.toNat '0'
  else pointed (-s.exponent).toNat s.coefficient

/-- The text of a word: its shortest decimal by position, without an exponent and without a
point where no digit follows. -/
def shortest {F : Format} (x : Floating F) : List Char :=
  if x.isFinite then
    sign x.negative ++ if x.isZero then ['0'] else (shortestScaled F x.magnitude).text
  else nonFinite x

/-! ## What the texts look like -/

example : shortest (Floating.ofRat (1 / 10) false : Single) = "0.1".toList := by
  decide +kernel
example : shortest (Floating.ofMagnitude true 1 : Single) =
    "-0.000000000000000000000000000000000000000000001".toList := by
  decide +kernel
example : shortest (Floating.ofRat (10 ^ 21) false : Double) =
    "1000000000000000000000".toList := by
  decide +kernel

end Seismogram.Decimal
