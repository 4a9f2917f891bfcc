/-
# Traces

A trace is a header, samples if they are known, and the byte order that it was read in or
will be written in.  Attaching samples brings the fields that describe them up to date:
their number, least, greatest and mean, and the time of the last one if they are evenly
spaced.
-/
import Seismogram.Header.Access

namespace Seismogram

open Seismogram.Number

/-- A trace. -/
structure Trace where
  header : Header
  /-- The samples, if they are known. -/
  samples : Option (List Single)
  order : ByteOrder
deriving DecidableEq

/-! ## What samples say of themselves -/

namespace Samples

/-- The smaller of a number and the next sample: of two equal ones, as the two zeros are, the
sample; a sample that is not a number does not count. -/
def lesser (x y : Single) : Single := if y.isNaN || x.lt y then x else y

/-- The greater of a number and the next sample: of two equal ones the sample; a sample that
is not a number does not count. -/
def greater (x y : Single) : Single := if y.isNaN || y.lt x then x else y

/-- The least sample, the last one of those that are equal; infinity if there is no number
among them. -/
def least (samples : List Single) : Single := samples.foldl lesser (.infinite false)

/-- The greatest sample, the last one of those that are equal; negative infinity if there is
no number among them. -/
def greatest (samples : List Single) : Single := samples.foldl greater (.infinite true)

/-- The sum, in 64-bit words from left to right.  It starts from negative zero, which added
to any number leaves that number. -/
def sum (samples : List Single) : Double :=
  samples.foldl (fun total x => total.add x.widen) (.zero true)

/-- The mean. -/
def mean (samples : List Single) : Single :=
  ((sum samples).div (.ofInt samples.length)).narrow

/-- The number of samples as a header can hold it. -/
def count (samples : List Single) : Int32 :=
  .ofInt (min samples.length 2147483647 : Nat)

end Samples

namespace Header

/-- The time of the last of `count` evenly spaced samples. -/
def lastTime (begin delta : Single) (count : Int32) : Single :=
  (begin.widen.add ((Floating.ofInt (count.toInt - 1) : Double).mul delta.widen)).narrow

/-- The header with the time of the last of `count` samples, if they are evenly spaced and
their first time and interval are known. -/
def setLastTime (h : Header) (count : Int32) : Header :=
  match h.integer? evenSlot, h.real? beginSlot, h.real? deltaSlot with
  | some 0, _, _ => h
  | _, some begin, some delta => h.setReal endSlot (some (lastTime begin delta count))
  | _, _, _ => h

/-- The header with the fields that describe samples. -/
def describe (h : Header) (samples : List Single) : Header :=
  let counted := h.setInteger countSlot (some (Samples.count samples))
  if samples.isEmpty then
    ((counted.setReal leastSlot none).setReal greatestSlot none).setReal meanSlot none
  else
    (((counted.setReal leastSlot (some (Samples.least samples))).setReal greatestSlot
      (some (Samples.greatest samples))).setReal meanSlot
      (some (Samples.mean samples))).setLastTime (Samples.count samples)

/-- The header of a new trace: one sample a second from the reference time on, which is the
start of 1970, and no sample yet. -/
def fresh : Header :=
  let codeOf (symbol : String) : Option Int32 := Symbol.code? symbol
  let h := (null.setInteger versionSlot (some defaultVersion)).setInteger countSlot (some 0)
  let h := (h.setReal beginSlot (some (.zero false))).setReal deltaSlot (some (.ofInt 1))
  let h := (h.setInteger fileTypeSlot (codeOf "itime")).setInteger referenceEventSlot
    (codeOf "ib")
  let h := (h.setLogical evenSlot (some true)).setLogical overwriteSlot (some true)
  let h := h.setLogical distancesFollowSlot (some false)
  h.setReferenceFields
    { year := 1970, day := 1, hour := 0, minute := 0, second := 0, millisecond := 0 }

end Header

namespace Trace

/-- A trace of null fields without samples. -/
def empty : Trace := ⟨Header.null, none, .little⟩

/-- A new trace. -/
def new : Trace := ⟨Header.fresh, none, .little⟩

/-- The trace with other samples, described by its header; without samples the header is
left as it is. -/
def setSamples (t : Trace) (samples : Option (List Single)) : Trace :=
  match samples with
  | some data => { t with header := t.header.describe data, samples := some data }
  | none => { t with samples := none }

/-- Values stored in a header one after the other, absolute times left out. -/
def storeOthers (h : Header) (values : List (String × Value)) : Except Error Header :=
  values.foldlM (fun h (name, v) => do
    let f ← Schema.field name
    match v with
    | .time _ => .ok h
    | v => h.store f v) h

/-- Absolute times stored in a header one after the other, other values left out. -/
def storeTimes (h : Header) (values : List (String × Value)) : Except Error Header :=
  values.foldlM (fun h (name, v) => do
    match v with
    | .time t => h.store (← Schema.field name) (.time t)
    | _ => .ok h) h

/-- A new trace with header values and samples.  Absolute times are stored after all other
values, so that they are measured from the final reference time. -/
def ofValues (values : List (String × Value)) (samples : Option (List Single)) :
    Except Error Trace := do
  let h ← storeTimes (← storeOthers Header.fresh values) values
  let h := match samples with
    | some data => h.describe data
    | none => h
  .ok ⟨← h.updateDistances false, samples, .little⟩

end Trace

end Seismogram
