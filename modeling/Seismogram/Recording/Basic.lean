/-
# Recordings of any format

A recording is what every format of seismic data has: where it was recorded, when it
starts, the interval of its samples, and the samples; it may carry the header values of this
format as well.  Turning a recording into a trace, the identifiers, the interval, the
samples and the start of the recording win over header values; turning a trace into a
recording, the start is found from the reference time and the time of the first sample.
-/
import Seismogram.Recording.HeaderMap
import Seismogram.Trace.Edit

namespace Seismogram

open Seismogram.Number Seismogram.Time

/-- A recording. -/
structure Recording where
  network : String
  station : String
  /-- The location at the station. -/
  location : String
  channel : String
  /-- The time of the first sample. -/
  start : Instant
  /-- The interval of the samples in seconds. -/
  interval : Double
  /-- The number of samples, also where they are not here. -/
  count : Nat
  /-- Header values, if the recording carries them. -/
  headers : Option HeaderMap
  samples : List Single

namespace Recording

/-- The identifier: network, station, location and channel. -/
def id (r : Recording) : String :=
  ".".intercalate [r.network, r.station, r.location, r.channel]

/-- The text without white space at its ends, if something is left. -/
def nonEmpty (s : String) : Option String :=
  match Text.trim s.toList with
  | [] => none
  | text => some (String.ofList text)

/-- The header values give each field of the reference time an integer. -/
def givesReferenceTime (m : HeaderMap) : Bool :=
  Header.referenceSlots.all fun (name, _) =>
    match m.get? name with
    | some (.integer _) => true
    | _ => false

/-- The trace of the header values alone, or a new trace. -/
def base (r : Recording) : Except Error Trace :=
  match r.headers with
  | some m => Trace.ofValues m.entries none
  | none => .ok Trace.new

/-- The header with the identifiers and the interval of a recording. -/
def identify (r : Recording) (h : Header) : Header :=
  ((((h.setText TextName.knetwk.span (nonEmpty r.network)).setText TextName.kstnm.span
    (nonEmpty r.station)).setText TextName.khole.span (nonEmpty r.location)).setText
    TextName.kcmpnm.span (nonEmpty r.channel)).setReal Header.deltaSlot (some r.interval.narrow)

/-- The header with the start of the recording as its reference time, unless the header
values give one. -/
def refer (r : Recording) (h : Header) : Except Error Header :=
  if r.headers.any givesReferenceTime then .ok h
  else do
    let fields := decompose (← roundToMillisecond r.start)
    (h.setReferenceFields fields).setSymbol SymbolName.iztype.name SymbolName.iztype.slot
      SymbolName.iztype.accepted (some "ib")

/-- The trace of a recording. -/
def toTrace (r : Recording) : Except Error Trace := do
  let t ← r.base
  let h ← r.refer (r.identify t.header)
  let begin := secondsBetween r.start (← h.referenceTime)
  let h := (h.setReal Header.beginSlot (some begin.narrow)).describe r.samples
  .ok ⟨← h.updateDistances false, some r.samples, t.order⟩

end Recording

namespace Trace

/-- The reference time, or the start of 1970 where it is not known. -/
def referenceTimeOrEpoch (t : Trace) : Instant :=
  match t.header.referenceTime with
  | .ok reference => reference
  | .error _ => .epoch

/-- The number of samples: of those that are here, or else the number that the header gives,
where it is one. -/
def sampleCount (t : Trace) : Nat :=
  match t.samples with
  | some data => data.length
  | none => ((t.header.integer? Header.countSlot).map fun n => n.toInt.toNat).getD 0

/-- The recording of a trace. -/
def toRecording (t : Trace) : Except Error Recording := do
  let h := t.header
  let values ← h.entries
  let begin := ((h.real? Header.beginSlot).map Floating.widen).getD (.zero false)
  let start ← shift t.referenceTimeOrEpoch begin
  .ok
    { network := (TextName.knetwk.get h).getD ""
      station := (TextName.kstnm.get h).getD ""
      location := (TextName.khole.get h).getD ""
      channel := (TextName.kcmpnm.get h).getD ""
      start
      interval := ((h.real? Header.deltaSlot).map Floating.widen).getD (.ofInt 1)
      count := t.sampleCount
      headers := some (HeaderMap.ofList values)
      samples := t.samples.getD [] }

end Trace

end Seismogram
