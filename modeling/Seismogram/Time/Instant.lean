/-
# Instants of Universal Time

An instant is a day, a second of that day and nanoseconds in that second.  A leap second is
the last second of a minute with a thousand million nanoseconds or more: it prolongs that
second and is not counted among the seconds of the day.

Durations are integers, in nanoseconds.  Adding one to an instant leaves a leap second
first, if the instant is in one and the sum is not; the rest is the carrying of nanoseconds
into seconds and of seconds into days.  Only the range of the days can make a sum fail.
-/
import Seismogram.Time.Calendar

namespace Seismogram.Time

/-- The nanoseconds of a second. -/
def nanosPerSecond : Nat := 1000000000

/-- The seconds of a day, leap seconds not counted. -/
def secondsPerDay : Nat := 86400

/-- The first year. -/
def firstYear : Int := -262143

/-- The last year. -/
def lastYear : Int := 262142

/-- The first day. -/
def firstDay : Int := daysBefore firstYear

/-- The last day. -/
def lastDay : Int := daysBefore (lastYear + 1) - 1

/-- An instant, leap seconds included. -/
structure Instant where
  /-- The day, counted from 1970-01-01. -/
  day : Int
  /-- The second of the day. -/
  second : Nat
  /-- The nanosecond of the second; those of a leap second start at `nanosPerSecond`. -/
  nanosecond : Nat
  /-- The day is in the calendar. -/
  day_mem : firstDay ≤ day ∧ day ≤ lastDay
  /-- The second is in the day. -/
  second_lt : second < secondsPerDay
  /-- The nanosecond is in the second or the leap second that prolongs it. -/
  nanosecond_lt : nanosecond < 2 * nanosPerSecond
  /-- Only the last second of a minute is prolonged. -/
  leap : nanosPerSecond ≤ nanosecond → second % 60 = 59
deriving DecidableEq

namespace Instant

/-- The instant with given parts, if there is one. -/
def ofParts? (day : Int) (second nanosecond : Nat) : Option Instant :=
  if h : (firstDay ≤ day ∧ day ≤ lastDay) ∧ second < secondsPerDay ∧
      nanosecond < 2 * nanosPerSecond ∧ (nanosPerSecond ≤ nanosecond → second % 60 = 59) then
    some ⟨day, second, nanosecond, h.1, h.2.1, h.2.2.1, h.2.2.2⟩
  else none

/-- 1970-01-01 at midnight. -/
def epoch : Instant where
  day := 0
  second := 0
  nanosecond := 0
  day_mem := by decide
  second_lt := by decide
  nanosecond_lt := by decide
  leap := by decide

/-- The instant is in a leap second. -/
def inLeapSecond (t : Instant) : Bool := decide (nanosPerSecond ≤ t.nanosecond)

/-- The seconds from 1970-01-01 to the second of an instant. -/
def unixSeconds (t : Instant) : Int := t.day * secondsPerDay + t.second

/-- The instant of a number of seconds from 1970-01-01 and nanoseconds in the last one. -/
def ofUnix? (seconds : Int) (nanosecond : Nat) : Option Instant :=
  ofParts? (seconds / secondsPerDay) (seconds % secondsPerDay).toNat nanosecond

/-- The instant `nanos` nanoseconds after the start of the second `second` of a day; second
and nanoseconds may be of any size. -/
def carry? (day second nanos : Int) : Option Instant :=
  let seconds := second + nanos / nanosPerSecond
  ofParts? (day + seconds / secondsPerDay) (seconds % secondsPerDay).toNat
    (nanos % nanosPerSecond).toNat

/-- The instant a duration later.  In a leap second, a duration that leads past its end
starts from the beginning of that second, one of a whole second or more backwards from the
second after it, and any other stays in the prolonged second. -/
def add? (t : Instant) (nanos : Int) : Option Instant :=
  let seconds := nanos.tdiv nanosPerSecond
  let rest := nanos.tmod nanosPerSecond
  if t.inLeapSecond then
    if 0 < seconds ∨ 0 < rest ∧ 2 * nanosPerSecond ≤ t.nanosecond + rest then
      carry? t.day t.second (t.nanosecond - nanosPerSecond + nanos)
    else if seconds < 0 then
      carry? t.day (t.second + 1) (t.nanosecond - nanosPerSecond + nanos)
    else ofParts? t.day t.second (t.nanosecond + rest).toNat
  else carry? t.day t.second (t.nanosecond + nanos)

/-- The duration from the second instant to the first.  A leap second between two seconds of
a day counts where it belongs to the earlier of the two instants. -/
def since (a b : Instant) : Int :=
  let leap : Int :=
    if b.second < a.second ∧ b.inLeapSecond then 1
    else if a.second < b.second ∧ a.inLeapSecond then -1
    else 0
  ((a.day - b.day) * secondsPerDay + ((a.second : Int) - b.second) + leap) * nanosPerSecond
    + ((a.nanosecond : Int) - b.nanosecond)

end Instant

end Seismogram.Time
