/-
# Reading numerals

A real numeral is an optional sign followed by

* `inf`, `infinity` or `nan`, in any mixture of cases, or
* decimal digits with an optional point among, before or after them (at least one digit),
  and an optional exponent: `e` or `E`, an optional sign, at least one digit.

It is read as the word nearest to the decimal it writes, rounded once.  An integer numeral
is an optional sign and at least one digit.  Digits are the ASCII digits.
-/
import Seismogram.Number.Arithmetic

namespace Seismogram.Decimal

open Seismogram.Number

/-- A sign and what follows it; no sign is plus. -/
def splitSign : List Char → Bool × List Char
  | '-' :: rest => (true, rest)
  | '+' :: rest => (false, rest)
  | rest => (false, rest)

/-- The leading digits and what follows them. -/
def splitDigits (text : List Char) : List Char × List Char :=
  (text.takeWhile Char.isDigit, text.dropWhile Char.isDigit)

/-- The natural number that digits write; none write zero. -/
def naturalValue (ds : List Char) : Nat := Nat.ofDigitChars 10 ds 0

/-- A whole text of at least one digit. -/
def natural? (text : List Char) : Option Nat :=
  if !text.isEmpty && text.all Char.isDigit then some (naturalValue text) else none

/-- A whole text of an optional sign and at least one digit. -/
def integer? (text : List Char) : Option Int :=
  let (negative, rest) := splitSign text
  (natural? rest).map fun n => if negative then -(n : Int) else n

/-- An exponent that ends a numeral, or its absence. -/
def exponent? : List Char → Option Int
  | [] => some 0
  | mark :: rest => if mark = 'e' ∨ mark = 'E' then integer? rest else none

/-- An unsigned decimal: a natural number and the power of ten that it is multiplied by. -/
structure DecimalNumeral where
  /-- The digits before and after the point, read together. -/
  coefficient : Nat
  /-- The power of ten. -/
  exponent : Int
deriving DecidableEq, Repr

/-- An unsigned decimal numeral. -/
def decimal? (text : List Char) : Option DecimalNumeral :=
  let (whole, rest) := splitDigits text
  let (fraction, rest) :=
    match rest with
    | '.' :: rest => splitDigits rest
    | rest => ([], rest)
  if whole.isEmpty && fraction.isEmpty then none
  else (exponent? rest).map fun e =>
    ⟨naturalValue (whole ++ fraction), e - fraction.length⟩

/-- The number that an unsigned decimal numeral writes. -/
def DecimalNumeral.value (d : DecimalNumeral) : Rat := d.coefficient * 10 ^ d.exponent

/-- Decimal exponents beyond this, of either sign, are out of the range of every word of up
to 64 bits. -/
def exponentBound : Int := 400

/-- The magnitude nearest to the number of a numeral.  Numbers far out of range are answered
without their power of ten, which may have any number of digits. -/
def DecimalNumeral.magnitude (F : Format) (d : DecimalNumeral) : Nat :=
  let top := (digitCount d.coefficient : Int) + d.exponent
  if d.coefficient = 0 ∨ top < -exponentBound then 0
  else if exponentBound < top then F.infinity
  else F.nearestMagnitude d.value

/-- The lower-case form of an ASCII letter. -/
def lowered (text : List Char) : List Char := text.map Char.toLower

/-- The word that a real numeral writes. -/
def real? (F : Format) (text : List Char) : Option (Floating F) :=
  let (negative, rest) := splitSign text
  let name := lowered rest
  if name = ['n', 'a', 'n'] then some (.nan negative)
  else if name = ['i', 'n', 'f'] ∨ name = ['i', 'n', 'f', 'i', 'n', 'i', 't', 'y'] then
    some (.infinite negative)
  else (decimal? rest).map fun d => .ofMagnitude negative (d.magnitude F)

end Seismogram.Decimal
