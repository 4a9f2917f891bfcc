/-
# The six fields of a reference time

A reference time is a year, a day of the year and a time of day down to the millisecond,
each an integer of its own.  Composing them counts all of them from the first midnight of
the year, so that a field beyond its calendar range carries into the next larger unit.  The
durations that the fields stand for are added one by one, and each of them and each sum has to
be short enough to be kept.  Taking an instant apart gives the fields in their calendar ranges.
-/
import Seismogram.Error

namespace Seismogram.Time

open Seismogram.Number

/-- The fields of a reference time. -/
structure ReferenceFields where
  year : Int32
  /-- The day of the year, from 1. -/
  day : Int32
  hour : Int32
  minute : Int32
  second : Int32
  millisecond : Int32
deriving DecidableEq, Repr

namespace ReferenceFields

/-- The fields in their order in the header. -/
def toList (f : ReferenceFields) : List Int32 :=
  [f.year, f.day, f.hour, f.minute, f.second, f.millisecond]

/-- The milliseconds from the start of the year to the time of the fields. -/
def milliseconds (f : ReferenceFields) : Int :=
  ((((f.day.toInt - 1) * 24 + f.hour.toInt) * 60 + f.minute.toInt) * 60 + f.second.toInt) * 1000
    + f.millisecond.toInt

end ReferenceFields

/-- The nanoseconds of a millisecond. -/
def nanosPerMillisecond : Nat := 1000000

/-- The longest duration of either sign: the milliseconds that a 64-bit word counts. -/
def longestDuration : Int := 9223372036854775807 * nanosPerMillisecond

/-- A duration in nanoseconds, if it is short enough to be kept. -/
def duration? (nanos : Int) : Option Int :=
  if -longestDuration ≤ nanos ∧ nanos ≤ longestDuration then some nanos else none

/-- A duration longer by another one. -/
def lengthen? (duration nanos : Int) : Option Int := do
  let more ← duration? nanos
  duration? (duration + more)

/-- The duration from the start of the year to the time of the fields. -/
def ReferenceFields.duration? (f : ReferenceFields) : Option Int := do
  let days ← Time.duration? ((f.day.toInt - 1) * secondsPerDay * nanosPerSecond)
  let hours ← lengthen? days (f.hour.toInt * 3600 * nanosPerSecond)
  let minutes ← lengthen? hours (f.minute.toInt * 60 * nanosPerSecond)
  let seconds ← lengthen? minutes (f.second.toInt * nanosPerSecond)
  lengthen? seconds (f.millisecond.toInt * nanosPerMillisecond)

/-- The first midnight of a year, if the calendar has the year. -/
def startOfYear? (year : Int) : Option Instant := Instant.ofParts? (daysBefore year) 0 0

/-- The instant of six fields. -/
def compose (f : ReferenceFields) : Except Error Instant :=
  match (startOfYear? f.year.toInt).bind fun start => f.duration?.bind start.add? with
  | some t => .ok t
  | none => .error (.invalidReferenceTime (.fields f.toList))

/-- The fields of an instant; what is less than a millisecond is cut off. -/
def decompose (t : Instant) : ReferenceFields where
  year := .ofInt (yearOf t.day)
  day := .ofInt (dayOfYear t.day)
  hour := .ofInt (t.second / 3600 : Nat)
  minute := .ofInt (t.second / 60 % 60 : Nat)
  second := .ofInt (t.second % 60 : Nat)
  millisecond := .ofInt (t.nanosecond / nanosPerMillisecond % 1000 : Nat)

/-- The nearest whole millisecond, the later of two equally near. -/
def roundToMillisecond (t : Instant) : Except Error Instant :=
  let millis := (t.nanosecond + nanosPerMillisecond / 2) / nanosPerMillisecond
  match (t.add? (-(t.nanosecond : Int))).bind (·.add? (millis * nanosPerMillisecond : Nat)) with
  | some rounded => .ok rounded
  | none => .error (.invalidReferenceTime (.rounding t))

/-- The 64-bit numbers nearest to powers of ten. -/
def powerOfTen (exponent : Int) : Double := .ofRat (10 ^ exponent) false

/-- The bound of the durations that are kept in nanoseconds: 64-bit signed integers. -/
def nanosecondBound : Int := 9223372036854775808

/-- The duration from the second instant to the first, in seconds.  Durations too long for
a count of nanoseconds are counted in whole milliseconds. -/
def secondsBetween (a b : Instant) : Double :=
  let nanos := a.since b
  if -nanosecondBound ≤ nanos ∧ nanos < nanosecondBound then
    (Floating.ofInt nanos : Double).mul (powerOfTen (-9))
  else (Floating.ofInt (nanos.tdiv nanosPerMillisecond) : Double).mul (powerOfTen (-3))

/-- The instant a number of seconds later, at the nearest nanosecond. -/
def shift (t : Instant) (seconds : Double) : Except Error Instant :=
  let shifted :=
    match (seconds.mul (powerOfTen 9)).toInt? with
    | some nanos => if nanos.natAbs < nanosecondBound.toNat then t.add? nanos else none
    | none => none
  match shifted with
  | some u => .ok u
  | none => .error (.invalidReferenceTime (.shift t seconds))

end Seismogram.Time
