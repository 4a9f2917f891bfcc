/-
# Texts of instants

A date is year, month and day; years of more than four digits and years before 0 carry a
sign.  A time of day is hour, minute and second, with the second 60 for a leap second, and
a fraction of the second:

* in messages as many of 3, 6 or 9 digits as are needed, none for a whole second;
* in listings always 6 digits, the rest cut off.
-/
import Seismogram.Decimal.Positional
import Seismogram.Time.Instant

namespace Seismogram.Time

open Seismogram.Decimal

/-- A natural number with at least `width` digits. -/
def padded (width n : Nat) : List Char := (digits n).leftpad width '0'

/-- A year. -/
def yearText (year : Int) : List Char :=
  if 0 ≤ year ∧ year ≤ 9999 then padded 4 year.toNat
  else (if year < 0 then '-' else '+') :: padded 4 year.natAbs

/-- The date of a day. -/
def dateText (day : Int) : List Char :=
  let date := dateOf day
  yearText date.year ++ '-' :: padded 2 date.month ++ '-' :: padded 2 date.day

namespace Instant

/-- The nanoseconds in the clock's second, that of a leap second included. -/
def clockNanosecond (t : Instant) : Nat :=
  if t.inLeapSecond then t.nanosecond - nanosPerSecond else t.nanosecond

/-- Hour, minute and second. -/
def clockText (t : Instant) : List Char :=
  let second := t.second % 60 + if t.inLeapSecond then 1 else 0
  padded 2 (t.second / 3600) ++ ':' :: padded 2 (t.second / 60 % 60) ++ ':' :: padded 2 second

/-- The fraction of a second with as many of 3, 6 or 9 digits as are needed. -/
def fractionText (nanosecond : Nat) : List Char :=
  if nanosecond = 0 then []
  else if nanosecond % 1000000 = 0 then '.' :: padded 3 (nanosecond / 1000000)
  else if nanosecond % 1000 = 0 then '.' :: padded 6 (nanosecond / 1000)
  else '.' :: padded 9 nanosecond

/-- The form with blanks between date, time and zone. -/
def spaced (t : Instant) : List Char :=
  dateText t.day ++ ' ' :: t.clockText ++ fractionText t.clockNanosecond
    ++ [' ', 'U', 'T', 'C']

/-- The form with a `T` between date and time and the zone as an offset. -/
def joined (t : Instant) : List Char :=
  dateText t.day ++ 'T' :: t.clockText ++ fractionText t.clockNanosecond
    ++ ['+', '0', '0', ':', '0', '0']

/-- The form of listings: microseconds, and the zone as a letter. -/
def listed (t : Instant) : List Char :=
  dateText t.day ++ 'T' :: t.clockText ++ '.' :: padded 6 (t.clockNanosecond / 1000) ++ ['Z']

example : epoch.joined = "1970-01-01T00:00:00+00:00".toList := by decide

end Instant

end Seismogram.Time
