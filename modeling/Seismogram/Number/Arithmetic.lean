/-
# Arithmetic and order of floating-point words

Each operation is the exact operation on rationals followed by one rounding.  What remains
to be said is the sign of a zero result, the infinities, and words that are not numbers:

* the sign of a product or quotient is the exclusive or of the signs; a sum that is exactly
  zero is positive unless both terms are negative;
* an operation on a word that is not a number gives the first such operand back, with the
  bit set that marks it as quiet, so that its other bits survive the operation;
* an operation without a result, such as a difference of infinities, gives the negative
  quiet word with no other fraction bit.

Comparisons are exact, the zeros are equal, and a word that is not a number is neither
equal to nor below any word.
-/
import Seismogram.Number.Floating

namespace Seismogram.Number

namespace Floating

variable {F G : Format}

/-! ## Words that are not numbers -/

/-- The quiet form of a word that is not a number: the first bit of the fraction is set. -/
def quiet (x : Floating F) : Floating F :=
  let half := F.stepWeight / 2
  if x.magnitude / half % 2 = 1 then x else ofMagnitude x.negative (x.magnitude + half)

/-- The answer of an operation that has no result. -/
def invalid : Floating F := nan true

/-! ## Sums, products and quotients -/

/-- The sum. -/
def add (x y : Floating F) : Floating F :=
  if x.isNaN then x.quiet
  else if y.isNaN then y.quiet
  else if x.isInfinite then
    if y.isInfinite && x.negative != y.negative then invalid else x
  else if y.isInfinite then y
  else ofRat (x.value + y.value) (x.negative && y.negative)

/-- The difference: the sum with the second operand turned, unless it is not a number, which
has no sign to turn. -/
def sub (x y : Floating F) : Floating F :=
  if x.isNaN then x.quiet
  else if y.isNaN then y.quiet
  else x.add y.neg

/-- The product. -/
def mul (x y : Floating F) : Floating F :=
  let sign := x.negative != y.negative
  if x.isNaN then x.quiet
  else if y.isNaN then y.quiet
  else if x.isInfinite || y.isInfinite then
    if x.isZero || y.isZero then invalid else infinite sign
  else ofRat (x.value * y.value) sign

/-- The quotient. -/
def div (x y : Floating F) : Floating F :=
  let sign := x.negative != y.negative
  if x.isNaN then x.quiet
  else if y.isNaN then y.quiet
  else if x.isInfinite then
    if y.isInfinite then invalid else infinite sign
  else if y.isInfinite then zero sign
  else if y.isZero then
    if x.isZero then invalid else infinite sign
  else ofRat (x.value / y.value) sign

/-! ## Changes of format -/

/-- The same number in another format, rounded where the format is narrower.  A word that
is not a number keeps the leading bits of its fraction and becomes quiet. -/
def convert (x : Floating F) : Floating G :=
  if x.isNaN then
    let fraction := x.magnitude - F.infinity
    quiet (ofMagnitude x.negative (G.infinity + fraction * G.stepWeight / F.stepWeight))
  else if x.isInfinite then infinite x.negative
  else ofRat x.value x.negative

/-- A 32-bit word as the 64-bit word of the same number. -/
def widen (x : Single) : Double := x.convert

/-- The 32-bit word nearest to a 64-bit word. -/
def narrow (x : Double) : Single := x.convert

/-- The integer nearest to a finite word, the one farther from zero of two equally near. -/
def toInt? (x : Floating F) : Option Int :=
  if x.isFinite then some (roundHalfAway x.value) else none

/-! ## Order -/

/-- The magnitude with its sign: numbers are ordered as these integers, and both zeros
have the same. -/
def rank (x : Floating F) : Int :=
  if x.negative then -(x.magnitude : Int) else x.magnitude

/-- Both words are numbers or infinities, and the first is the smaller. -/
def lt (x y : Floating F) : Bool :=
  !x.isNaN && !y.isNaN && decide (x.rank < y.rank)

/-- Both words are numbers or infinities, and the first is not the greater. -/
def le (x y : Floating F) : Bool :=
  !x.isNaN && !y.isNaN && decide (x.rank ≤ y.rank)

/-- The words are the same number, or infinity of the same sign. -/
def same (x y : Floating F) : Bool :=
  !x.isNaN && !y.isNaN && decide (x.rank = y.rank)

end Floating

end Seismogram.Number
