/-
# Traces as bytes

A trace is read from the bytes of a binary or an alphanumeric file and written as such.
Reading keeps every header field as it is stored.  Writing brings the distances up to date
first, where the flag asks for it.
-/
import Seismogram.Layout.Alphanumeric
import Seismogram.Layout.Binary
import Seismogram.Trace.Edit

namespace Seismogram

open Seismogram.Number

/-- How to read. -/
structure ReadOptions where
  /-- The byte order, to be found out if it is not given. -/
  order : Option ByteOrder := none
  headerOnly : Bool := false
  alphanumeric : Bool := false
  /-- Bytes after the samples of a binary file are refused. -/
  exactSize : Bool := false
deriving DecidableEq, Repr

/-- How to write. -/
structure WriteOptions where
  /-- The byte order, that of the trace if it is not given. -/
  order : Option ByteOrder := none
  headerOnly : Bool := false
  alphanumeric : Bool := false
deriving DecidableEq, Repr

namespace Trace

/-- The samples of a binary file whose header has been read. -/
def binarySamples (data : List UInt8) (h : Header) (o : ByteOrder) (exactSize : Bool) :
    Except Error (List Single) := do
  let count ← h.sampleCount
  let expected := Binary.headerSize + 4 * count
  Binary.checkLength data expected
  if exactSize ∧ expected < data.length then .error (.sizeMismatch expected data.length)
  Binary.decodeSamples o count (data.drop Binary.headerSize)

/-- The trace of bytes. -/
def ofBytes (data : List UInt8) (options : ReadOptions) : Except Error Trace :=
  if options.alphanumeric then do
    let (header, samples) ← Alphanumeric.decode data options.headerOnly
    .ok { header, samples, order := options.order.getD .little }
  else do
    let (header, order) ← Binary.decodeHeader data options.order
    if options.headerOnly then .ok { header, samples := none, order }
    else
      let samples ← binarySamples data header order options.exactSize
      .ok { header, samples := some samples, order }

/-- What stands against writing a trace, before its distances are looked at: a header by
itself has no alphanumeric form, and samples that the header promises must be there. -/
def checkWritable (t : Trace) (options : WriteOptions) : Except Error Unit :=
  if options.alphanumeric && options.headerOnly then .error .headerOnlyText
  else if options.headerOnly || t.samples.isSome then .ok ()
  else
    match t.header.integer? Header.countSlot with
    | some npts => if npts = 0 then .ok () else .error (.missingSamples npts)
    | none => .ok ()

/-- The bytes of a trace as it is. -/
def encode (t : Trace) (options : WriteOptions) : List UInt8 :=
  let samples := if options.headerOnly then none else t.samples
  if options.alphanumeric then Alphanumeric.encode t.header samples
  else
    let o := options.order.getD t.order
    Binary.encodeHeader o t.header ++ Binary.encodeSamples o (samples.getD [])

end Trace

namespace Edit

/-- The bytes of the trace, its distances brought up to date. -/
def toBytes (options : WriteOptions) : Edit (List UInt8) := do
  ask (·.checkWritable options)
  updateDistances false
  ask fun t => .ok (t.encode options)

end Edit

end Seismogram
