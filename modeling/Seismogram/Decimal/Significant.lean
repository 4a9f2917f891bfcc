/-
# A fixed number of significant digits

A positive number rounded to `p` significant digits is a natural number of `p` digits and
the decimal exponent of its first digit.  The *general* form writes it with all `p` digits,
by position for exponents from -4 up to `p - 1` and with an exponent outside that range.
The exponent is the one after rounding: 9999999.6 to seven digits is 1.000000e+07.

By position the number itself is rounded once more, to the places after the point that the
exponent leaves; the digits of the first rounding are written with an exponent only.

The form is chosen, and its places are counted, in signed words of 32 bits.  A number of digits
that no such word holds is taken for the number that its last 32 bits stand for.
-/
import Seismogram.Decimal.Positional
import Seismogram.Number.Floating

namespace Seismogram.Decimal

open Seismogram.Number

/-- Significant digits and the decimal exponent of the first of them. -/
structure Significant where
  /-- The digits, read as a natural number. -/
  coefficient : Nat
  /-- The decimal exponent of the first digit. -/
  exponent : Int
deriving DecidableEq, Repr

/-- The nearest number with `p` significant digits, the even one of two equally near.  A
coefficient that is rounded up to `p + 1` digits becomes the next power of ten. -/
def significant (p : Nat) (r : Rat) : Significant :=
  if r = 0 then ⟨0, 0⟩
  else
    let exponent := log10Floor r
    let coefficient := (roundHalfEven (r / 10 ^ (exponent - (p - 1 : Nat)))).toNat
    if coefficient < Nat.pow 10 p then ⟨coefficient, exponent⟩
    else ⟨Nat.pow 10 (p - 1), exponent + 1⟩

/-- An exponent: its sign and at least two digits. -/
def exponentPart (exponent : Int) : List Char :=
  'e' :: (if exponent < 0 then '-' else '+') :: (digits exponent.natAbs).leftpad 2 '0'

/-- A coefficient of `p` digits with a point after the first one; a single digit has no
point. -/
def mantissa (p coefficient : Nat) : List Char :=
  if p ≤ 1 then digits coefficient else pointed (p - 1) coefficient

/-- The text of significant digits, in the form that their exponent asks for. -/
def Significant.text (p : Nat) (d : Significant) : List Char :=
  if -4 ≤ d.exponent ∧ d.exponent < p then
    pointed ((p : Int) - 1 - d.exponent).toNat d.coefficient
  else mantissa p d.coefficient ++ exponentPart d.exponent

/-- A number that is not negative in units of `places` places after the point: the nearest
number of them, the even one of two equally near. -/
def roundedUnits (places : Nat) (r : Rat) : Nat := (roundHalfEven (r * 10 ^ places)).toNat

/-- The exponent from which on `p` digits are written with an exponent: `p` itself, as far as a
signed word of 32 bits holds it. -/
def exponentLimit (p : Nat) : Int := (Int32.ofNat p).toInt

/-- The places after the point that an exponent leaves, in the same words.  There are none where
their number is negative. -/
def placesLeft (p : Nat) (exponent : Int) : Nat :=
  (Int32.ofNat p - 1 - Int32.ofInt exponent).toNatClampNeg

/-- The general form of a number that is not negative. -/
def generalMagnitude (p : Nat) (r : Rat) : List Char :=
  let d := significant p r
  if -4 ≤ d.exponent ∧ d.exponent < exponentLimit p then
    let places := placesLeft p d.exponent
    pointed places (roundedUnits places r)
  else mantissa p d.coefficient ++ exponentPart d.exponent

/-- The names of the words that are not finite. -/
def nonFinite {F : Format} (x : Floating F) : List Char :=
  if x.isNaN then ['N', 'a', 'N'] else sign x.negative ++ ['i', 'n', 'f']

/-- The general form with `p` significant digits, at least one. -/
def general {F : Format} (p : Nat) (x : Floating F) : List Char :=
  let p := max p 1
  if x.isFinite then
    sign x.negative ++ generalMagnitude p (F.magnitudeValue x.magnitude)
  else nonFinite x

/-- The significant digits of a number in a file. -/
def columnDigits : Nat := 7

/-- The width of a column of such numbers. -/
def columnWidth : Nat := 15

/-- A number in its column: seven significant digits, moved to the right. -/
def column (x : Single) : List Char :=
  rightAligned columnWidth (general columnDigits x)

/-! ## What the forms look like -/

example : general 7 (Floating.ofRat (-12345) false : Single) = "-12345.00".toList := by
  decide +kernel
example : general 7 (Floating.ofRat (99999996 / 10) false : Double) = "1.000000e+07".toList := by
  decide +kernel
example : general 7 (Floating.ofRat (1 / 10000) false : Double) = "0.0001000000".toList := by
  decide +kernel
example : general 1 (Floating.ofRat 25 false : Double) = "2e+01".toList := by
  decide +kernel

end Seismogram.Decimal
