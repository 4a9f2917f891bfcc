/-
# Floating-point words and the numbers they stand for

A word of an interchange format is a sign bit, an exponent field and a fraction field.  It is
kept here as its bits, so that a word that is read and written again is the same word, also
when it is not a number.

Without its sign bit a word is a natural number, its *magnitude*.  Magnitudes order the
finite words and infinity as numbers order them, which makes two facts plain: the magnitude
is a whole number of *steps* of `2 ^ fractionBits` plus a significand, and the word after
the last finite one is infinity.  Rounding uses the first fact backwards: it finds the
step, rounds in units of that step, and caps the sum at infinity.

* `Floating.value` is the exact rational of a finite word;
* `Floating.ofRat` is the word nearest to a rational, ties to the even magnitude.
-/
import Seismogram.Number.Rounding

namespace Seismogram.Number

/-- A binary interchange format: the bits of a word, and those of them that hold the
fraction.  One bit is the sign and the others the exponent field. -/
structure Format where
  /-- The bits of a word. -/
  width : Nat
  /-- The bits of the fraction field. -/
  fractionBits : Nat
deriving DecidableEq, Repr

namespace Format

/-- The format of 32-bit words. -/
@[reducible] def single : Format := ⟨32, 23⟩

/-- The format of 64-bit words. -/
@[reducible] def double : Format := ⟨64, 52⟩

variable (F : Format)

/-- The weight of the sign bit: magnitudes are below it. -/
def signWeight : Nat := Nat.pow 2 (F.width - 1)

/-- The number of magnitudes that share one exponent field. -/
def stepWeight : Nat := Nat.pow 2 F.fractionBits

/-- The magnitude of infinity: every bit of the exponent field, none of the fraction. -/
def infinity : Nat := F.signWeight - F.stepWeight

/-- The exponent of the least positive word. -/
def leastExponent : Int :=
  2 - (Nat.pow 2 (F.width - F.fractionBits - 2) : Nat) - F.fractionBits

/-- How many steps a magnitude lies above the words of least exponent. -/
def step (magnitude : Nat) : Nat := magnitude / F.stepWeight - 1

/-- The number that a finite magnitude stands for. -/
def magnitudeValue (magnitude : Nat) : Rat :=
  ((magnitude - F.step magnitude * F.stepWeight : Nat) : Rat)
    * 2 ^ (F.leastExponent + F.step magnitude)

/-- The magnitude nearest to a rational that is not negative, ties to the even magnitude;
infinity from half a step above the largest finite number on. -/
def nearestMagnitude (r : Rat) : Nat :=
  if r = 0 then 0
  else
    let step := (log2Floor r - F.fractionBits - F.leastExponent).toNat
    let significand := (roundHalfEven (r / 2 ^ (F.leastExponent + step))).toNat
    min (step * F.stepWeight + significand) F.infinity

end Format

/-- A word of a floating-point format. -/
structure Floating (F : Format) where
  /-- The bits of the word. -/
  bits : BitVec F.width
deriving DecidableEq

/-- Words of 32 bits. -/
abbrev Single := Floating .single

/-- Words of 64 bits. -/
abbrev Double := Floating .double

namespace Floating

variable {F : Format}

instance : Inhabited (Floating F) := ⟨⟨0⟩⟩

instance : Repr (Floating F) := ⟨fun x p => reprPrec x.bits p⟩

/-- The word with a given sign and magnitude. -/
def ofMagnitude (negative : Bool) (magnitude : Nat) : Floating F :=
  ⟨BitVec.ofNat _ ((if negative then F.signWeight else 0) + magnitude)⟩

/-- The sign bit. -/
def negative (x : Floating F) : Bool :=
  decide (F.signWeight ≤ x.bits.toNat)

/-- The word without its sign bit. -/
def magnitude (x : Floating F) : Nat :=
  x.bits.toNat % F.signWeight

/-- The magnitude lies above that of infinity. -/
def isNaN (x : Floating F) : Bool :=
  decide (F.infinity < x.magnitude)

/-- The word is an infinity of either sign. -/
def isInfinite (x : Floating F) : Bool :=
  decide (x.magnitude = F.infinity)

/-- The word stands for a number. -/
def isFinite (x : Floating F) : Bool :=
  decide (x.magnitude < F.infinity)

/-- The word is a zero of either sign. -/
def isZero (x : Floating F) : Bool :=
  decide (x.magnitude = 0)

/-- The number that a finite word stands for. -/
def value (x : Floating F) : Rat :=
  if x.negative then -F.magnitudeValue x.magnitude else F.magnitudeValue x.magnitude

/-- The word nearest to a rational.  `negativeZero` is the sign given to an exact zero;
any other result has the sign of the rational, also where it is too small to keep. -/
def ofRat (r : Rat) (negativeZero : Bool) : Floating F :=
  ofMagnitude (decide (r < 0) || (negativeZero && decide (r = 0)))
    (F.nearestMagnitude (if r < 0 then -r else r))

/-- The word nearest to an integer. -/
def ofInt (n : Int) : Floating F := ofRat n false

/-- Zero, of either sign. -/
def zero (negative : Bool) : Floating F := ofMagnitude negative 0

/-- Infinity, of either sign. -/
def infinite (negative : Bool) : Floating F := ofMagnitude negative F.infinity

/-- The word that says "not a number" and nothing else: the first bit of the fraction is
set and no other. -/
def nan (negative : Bool) : Floating F :=
  ofMagnitude negative (F.infinity + F.stepWeight / 2)

/-- The same word with its sign turned. -/
def neg (x : Floating F) : Floating F :=
  ofMagnitude (!x.negative) x.magnitude

end Floating

end Seismogram.Number
