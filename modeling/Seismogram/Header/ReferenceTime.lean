/-
# The reference time of a header

Six integer fields give the reference time, and the fields of relative time count seconds
from it.  Moving the reference time keeps the absolute instants: every relative time that
is not null is moved by the same number of seconds the other way.
-/
import Seismogram.Header.Basic
import Seismogram.Time.Reference

namespace Seismogram.Header

open Seismogram.Number Seismogram.Time

/-- An integer of the reference time, which must not be null. -/
def referenceField (h : Header) (field : String × Fin 40) : Except Error Int32 :=
  match h.integer? field.2 with
  | some n => .ok n
  | none => .error (.incompleteReferenceTime field.1)

/-- The six fields of the reference time; the first that is null is the one complained of. -/
def referenceFields (h : Header) : Except Error ReferenceFields := do
  let year ← h.referenceField ("nzyear", 0)
  let day ← h.referenceField ("nzjday", 1)
  let hour ← h.referenceField ("nzhour", 2)
  let minute ← h.referenceField ("nzmin", 3)
  let second ← h.referenceField ("nzsec", 4)
  let millisecond ← h.referenceField ("nzmsec", 5)
  .ok { year, day, hour, minute, second, millisecond }

/-- The reference time. -/
def referenceTime (h : Header) : Except Error Instant := do
  compose (← h.referenceFields)

/-- The header with six fields of a reference time. -/
def setReferenceFields (h : Header) (f : ReferenceFields) : Header :=
  (referenceSlots.zip f.toList).foldl (fun h (slot, n) => h.setInteger slot.2 (some n)) h

/-- The slots of relative times. -/
def relativeTimeSlots : List (Fin 70) :=
  Schema.fields.filterMap fun f =>
    match f.cell with
    | .relativeTime slot => some slot
    | _ => none

/-- A relative time moved by a number of seconds, unless it is null. -/
def moveRelativeTime (seconds : Double) (h : Header) (slot : Fin 70) : Header :=
  match h.real? slot with
  | some x => h.setReal slot (some (x.widen.add seconds).narrow)
  | none => h

/-- The header with its reference time at the millisecond nearest to an instant.  Relative
times are moved along, unless the old reference time is not known. -/
def setReferenceTime (h : Header) (t : Instant) : Except Error Header := do
  let new ← roundToMillisecond t
  let moved :=
    match h.referenceTime with
    | .ok old => relativeTimeSlots.foldl (moveRelativeTime (secondsBetween old new)) h
    | .error _ => h
  .ok (moved.setReferenceFields (decompose new))

/-- The instant of a relative time, nothing if it is null. -/
def instantAt (h : Header) (slot : Fin 70) : Except Error (Option Instant) :=
  match h.real? slot with
  | some offset => do .ok (some (← shift (← h.referenceTime) offset.widen))
  | none => .ok none

/-- The header with the distance of an instant from the reference time in a slot. -/
def setInstant (h : Header) (slot : Fin 70) (t : Instant) : Except Error Header := do
  .ok (h.setReal slot (some (secondsBetween t (← h.referenceTime)).narrow))

end Seismogram.Header
