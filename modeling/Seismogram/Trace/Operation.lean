/-
# Histories of a trace

A trace comes into being from nothing, from header values, from a recording or from a file
(`Origin`).  From then on one operation after the other is done to it, and each of them may
fail (`Operation`).  A trace that an operation fails on is left as it is at that moment, and
the next operation goes on from there: `Trace.after` is the trace after a whole history.

Files belong to the world.  Every operation that reads or writes one therefore brings the
folder that it finds, which may have nothing to do with the folder of the operation before.
-/
import Seismogram.Recording.Basic
import Seismogram.Trace.Folder

namespace Seismogram

open Seismogram.Number Seismogram.Time

namespace Edit

/-- An edit whose answer is left out. -/
def silent {α : Type} (e : Edit α) : Edit Unit := fun t =>
  match e t with
  | .ok _ t' => .ok () t'
  | .error err t' => .error err t'

/-- Another trace in place of this one, unless that fails. -/
def replace (other : Trace → Except Error Trace) : Edit Unit := fun t =>
  match other t with
  | .ok t' => .ok () t'
  | .error e => .error e t

end Edit

/-! ## Operations -/

/-- What can be done to a trace by one call, with the arguments of the call. -/
inductive Operation
  /-- A value stored in the field of a name. -/
  | set (name : String) (v : Value)
  /-- The field of a name made null. -/
  | clear (name : String)
  /-- A real number, or nothing, stored in the field of a name. -/
  | setReal (name : String) (x : Option Single)
  /-- An integer, or nothing, stored in the field of a name. -/
  | setInteger (name : String) (n : Option Int32)
  /-- A truth value, or nothing, stored in the field of a name. -/
  | setLogical (name : String) (b : Option Bool)
  /-- A symbol, or nothing, stored in the field of a name. -/
  | setSymbol (name : String) (symbol : Option String)
  /-- A text, or nothing, stored in the field of a name. -/
  | setText (name : String) (s : Option String)
  /-- An instant stored in the field of a name, as its distance from the reference time. -/
  | setInstant (name : String) (t : Instant)
  /-- A name with a kind set: a real number. -/
  | assignReal (n : RealName) (x : Option Single)
  /-- A name with a kind set: a coordinate. -/
  | assignCoordinate (n : Coordinate) (x : Option Single)
  /-- A name with a kind set: an integer. -/
  | assignInteger (n : IntegerName) (x : Option Int32)
  /-- A name with a kind set: a truth value. -/
  | assignFlag (n : FlagName) (b : Option Bool)
  /-- The flag `lcalda` set. -/
  | assignDistancesFollow (b : Option Bool)
  /-- A name with a kind set: a symbol. -/
  | assignSymbol (n : SymbolName) (symbol : Option String)
  /-- A name with a kind set: a text. -/
  | assignText (n : TextName) (s : Option String)
  /-- The reference time moved. -/
  | setReferenceTime (t : Instant)
  /-- The distances brought up to date. -/
  | updateDistances (demanded : Bool)
  /-- The samples replaced. -/
  | setSamples (samples : Option (List Single))
  /-- The samples taken out. -/
  | takeSamples
  /-- The byte order replaced. -/
  | setOrder (o : ByteOrder)
  /-- The trace encoded. -/
  | toBytes (options : WriteOptions)
  /-- The trace written to a file. -/
  | write (d : Folder) (path : String) (options : WriteOptions)
  /-- The trace replaced by one that is read from bytes. -/
  | ofBytes (data : List UInt8) (options : ReadOptions)
  /-- The trace replaced by one that is read from a file. -/
  | read (d : Folder) (path : String) (options : ReadOptions)
  /-- The trace replaced by that of its own recording. -/
  | reconvert

namespace Operation

/-- The operation as an edit of the trace. -/
def edit : Operation → Edit Unit
  | set name v => Edit.set name v
  | clear name => Edit.clear name
  | setReal name x => Edit.setReal name x
  | setInteger name n => Edit.setInteger name n
  | setLogical name b => Edit.setLogical name b
  | setSymbol name symbol => Edit.setSymbol name symbol
  | setText name s => Edit.setText name s
  | setInstant name t => Edit.setInstant name t
  | assignReal n x => n.set x
  | assignCoordinate n x => n.set x
  | assignInteger n x => n.set x
  | assignFlag n b => n.set b
  | assignDistancesFollow b => Edit.setDistancesFollow b
  | assignSymbol n symbol => n.set symbol
  | assignText n s => n.set s
  | setReferenceTime t => Edit.setReferenceTime t
  | updateDistances demanded => Edit.updateDistances demanded
  | setSamples samples => Edit.setSamples samples
  | takeSamples => Edit.takeSamples.silent
  | setOrder o => Edit.setOrder o
  | toBytes options => (Edit.toBytes options).silent
  | write d path options => (Edit.write d path options).silent
  | ofBytes data options => Edit.replace fun _ => Trace.ofBytes data options
  | read d path options => Edit.replace fun _ => d.read path options
  | reconvert => Edit.replace fun t => do (← t.toRecording).toTrace

/-- The field that the operation is asked to store in, if it names one. -/
def field? : Operation → Option String
  | set name _ | clear name | setReal name _ | setInteger name _ | setLogical name _
  | setSymbol name _ | setText name _ | setInstant name _ => some name
  | assignReal n _ => some n.name
  | assignCoordinate n _ => some n.name
  | assignInteger n _ => some n.name
  | assignFlag n _ => some n.name
  | assignDistancesFollow _ => some "lcalda"
  | assignSymbol n _ => some n.name
  | assignText n _ => some n.name
  | _ => none

/-- The trace is replaced by one that is read. -/
def reads : Operation → Bool
  | ofBytes _ _ | read _ _ _ => true
  | _ => false

/-- The trace is written to a file. -/
def writesFile : Operation → Bool
  | write _ _ _ => true
  | _ => false

/-- The trace after the operation, whether it succeeds or fails. -/
def after (op : Operation) (t : Trace) : Trace :=
  match op.edit t with
  | .ok _ t' => t'
  | .error _ t' => t'

end Operation

/-- The trace after a history of operations. -/
def Trace.after (t : Trace) (history : List Operation) : Trace :=
  history.foldl (fun t op => op.after t) t

/-! ## Origins -/

/-- Where a trace comes from, other than from raw words. -/
inductive Origin
  /-- A new trace. -/
  | new
  /-- Header values and samples. -/
  | values (pairs : List (String × Value)) (samples : Option (List Single))
  /-- A recording. -/
  | recording (r : Recording)
  /-- The bytes of a file. -/
  | bytes (data : List UInt8) (options : ReadOptions)
  /-- A file in a folder. -/
  | file (d : Folder) (path : String) (options : ReadOptions)

namespace Origin

/-- The trace at the beginning. -/
def trace : Origin → Except Error Trace
  | new => .ok Trace.new
  | values pairs samples => Trace.ofValues pairs samples
  | recording r => r.toTrace
  | bytes data options => Trace.ofBytes data options
  | file d path options => d.read path options

/-- The trace is one that was read. -/
def reads : Origin → Bool
  | bytes _ _ | file _ _ _ => true
  | _ => false

end Origin

end Seismogram
