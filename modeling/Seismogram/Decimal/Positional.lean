/-
# Positional decimal text

Numbers are written in decimal in a few ways that differ in where the point stands and how
many digits there are, and agree in the rest: a sign, the digits of a natural number, and a
point set into them.  Texts are lists of characters, so that they can be taken apart again
by recursion.
-/
import Seismogram.Number.Rounding

namespace Seismogram.Decimal

/-- The decimal digits of a natural number, the first one not zero unless it is the only
one. -/
def digits (n : Nat) : List Char := Nat.toDigits 10 n

/-- A minus sign for a negative number, nothing otherwise. -/
def sign (negative : Bool) : List Char := if negative then ['-'] else []

/-- An integer. -/
def integer (n : Int) : List Char := sign (decide (n < 0)) ++ digits n.natAbs

/-- The number `n / 10 ^ places`, with a point before its last `places` digits and at least
one digit before the point.  The point is written also when no digit follows it. -/
def pointed (places n : Nat) : List Char :=
  let ds := (digits n).leftpad (places + 1) '0'
  ds.take (ds.length - places) ++ '.' :: ds.drop (ds.length - places)

/-- A text moved to the right end of a column. -/
def rightAligned (width : Nat) (text : List Char) : List Char := text.leftpad width ' '

/-- An integer in a column. -/
def integerColumn (width : Nat) (n : Int) : List Char := rightAligned width (integer n)

theorem length_rightAligned (width : Nat) (text : List Char) :
    (rightAligned width text).length = max width text.length := by
  simp [rightAligned, List.leftpad]
  omega

/-! ## What the forms look like -/

example : pointed 2 5 = "0.05".toList := by decide
example : pointed 0 37 = "37.".toList := by decide
example : integerColumn 6 (-120) = "  -120".toList := by decide

end Seismogram.Decimal
