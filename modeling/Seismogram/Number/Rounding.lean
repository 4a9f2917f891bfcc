/-
# Powers below a rational, and the nearest integer

Words and decimals are both written by the same two steps: find the power of the base that
the number reaches, then round the number, measured in some smaller power of the base, to
an integer.  This file holds the two steps for exact rationals, so that nothing is lost
before the one rounding that a format asks for.

* `log2Floor` and `log10Floor` give the largest exponent whose power does not exceed a
  positive rational;
* `roundHalfEven` is the nearest integer, the even one of two equally near.
-/

namespace Seismogram.Number

/-- The estimate `k` of a logarithm in base `b`, lowered by one when `b ^ k` exceeds `r`. -/
def settleLog (b r : Rat) (k : Int) : Int :=
  if b ^ k ≤ r then k else k - 1

/-- The largest `k` with `2 ^ k ≤ r`, for positive `r`.  The bit lengths of numerator and
denominator leave only two candidates. -/
def log2Floor (r : Rat) : Int :=
  settleLog 2 r ((r.num.natAbs.log2 : Int) - (r.den.log2 : Int))

/-- The number of decimal digits of a natural number; zero has one. -/
def digitCount (n : Nat) : Nat :=
  (Nat.toDigits 10 n).length

/-- The largest `k` with `10 ^ k ≤ r`, for positive `r`.  The digit counts of numerator and
denominator leave only two candidates. -/
def log10Floor (r : Rat) : Int :=
  settleLog 10 r ((digitCount r.num.natAbs : Int) - (digitCount r.den : Int))

/-- The nearest integer; of two equally near, the even one. -/
def roundHalfEven (r : Rat) : Int :=
  let below := r.floor
  let twice := 2 * (r - below)
  if twice < 1 then below
  else if 1 < twice then below + 1
  else below + below % 2

/-- The nearest integer; of two equally near, the one farther from zero. -/
def roundHalfAway (r : Rat) : Int :=
  if r < 0 then -(1 / 2 - r).floor else (r + 1 / 2).floor

@[simp] theorem roundHalfEven_intCast (n : Int) : roundHalfEven n = n := by
  have exactly : 2 * ((n : Rat) - n) < 1 := by
    rw [Rat.sub_self, Rat.mul_zero]
    decide
  simp only [roundHalfEven, Rat.floor_intCast]
  exact if_pos exactly

end Seismogram.Number
