/-
# Fields by name

A field that is known only by its name is read as a value and set from one, whatever its
kind; or it is read and set as one kind, which fails on fields of other kinds.  The
functions here only read and store.  That storing a coordinate brings the distances up to
date is a matter of edits of a trace.
-/
import Seismogram.Header.Distances
import Seismogram.Header.ReferenceTime

namespace Seismogram

open Seismogram.Number Seismogram.Time

namespace Schema

/-- The field of a name, which must exist. -/
def field (name : String) : Except Error Field :=
  match find? name with
  | some f => .ok f
  | none => .error (.unknownField name)

end Schema

namespace Header

/-! ## Any kind -/

/-- The value of a field, nothing if it is null. -/
def value? (h : Header) (f : Field) : Except Error (Option Value) :=
  match f.cell with
  | .real slot | .relativeTime slot => .ok ((h.real? slot).map .real)
  | .integer slot => .ok ((h.integer? slot).map .integer)
  | .logical slot => do .ok ((← h.logical? f.name slot).map .logical)
  | .enumerated slot accepted => do .ok ((← h.symbol? f.name slot accepted).map .text)
  | .text span => .ok ((h.text? span).map .text)

/-- The header with a value in a field.  Real fields take integers too, logical fields take
any number as whether it is other than zero, and relative times take absolute ones. -/
def store (h : Header) (f : Field) (v : Value) : Except Error Header :=
  match f.cell, v with
  | .real slot, .real x | .relativeTime slot, .real x => .ok (h.setReal slot (some x))
  | .real slot, .integer n | .relativeTime slot, .integer n =>
    .ok (h.setReal slot (some (.ofInt n.toInt)))
  | .relativeTime slot, .time t => h.setInstant slot t
  | .integer slot, .integer n => .ok (h.setInteger slot (some n))
  | .logical slot, .logical b => .ok (h.setLogical slot (some b))
  | .logical slot, .integer n => .ok (h.setLogical slot (some (n != 0)))
  | .logical slot, .real x => .ok (h.setLogical slot (some !(x.same (.zero false))))
  | .enumerated slot accepted, .text s => h.setSymbol f.name slot accepted (some s)
  | .text span, .text s => .ok (h.setText span (some s))
  | cell, v => .error (.wrongShape f.name cell.kind v.shape)

/-- The header with a field null. -/
def erase (h : Header) (f : Field) : Header :=
  match f.cell with
  | .real slot | .relativeTime slot => h.setReal slot none
  | .integer slot | .logical slot | .enumerated slot _ => h.setInteger slot none
  | .text span => h.setText span none

/-- The value of the field of a name, nothing if it is null. -/
def get (h : Header) (name : String) : Except Error (Option Value) := do
  h.value? (← Schema.field name)

/-- Every field that is not null, in the order of the schema.  The first that cannot be read
is the one complained of. -/
def entries (h : Header) : Except Error (List (String × Value)) := do
  let read ← Schema.fields.mapM fun f => do .ok ((← h.value? f).map fun v => (f.name, v))
  .ok (read.filterMap id)

/-- The lines of a listing: name and value of every field that is not null, or the stored
integer of one that cannot be read. -/
def listing (h : Header) : String :=
  let line (f : Field) (text : String) : String :=
    String.ofList (Decimal.rightAligned 10 f.name.toList) ++ " = " ++ text ++ "\n"
  String.join (Schema.fields.map fun f =>
    match h.value? f with
    | .ok (some v) => line f v.listed
    | .ok none => ""
    | .error _ => line f ("<invalid " ++ intText (h.integers.getD f.cell.slot 0) ++ ">"))

/-! ## One kind -/

/-- The slot of a field of real numbers or relative times. -/
def realSlot (name : String) : Except Error (Fin 70) := do
  let f ← Schema.field name
  match f.cell with
  | .real slot | .relativeTime slot => .ok slot
  | cell => .error (.wrongKind f.name .real cell.kind)

/-- The slot of a field of relative times. -/
def relativeTimeSlot (name : String) : Except Error (Fin 70) := do
  let f ← Schema.field name
  match f.cell with
  | .relativeTime slot => .ok slot
  | cell => .error (.wrongKind f.name .relativeTime cell.kind)

/-- The slot of a field of integers. -/
def integerSlot (name : String) : Except Error (Fin 40) := do
  let f ← Schema.field name
  match f.cell with
  | .integer slot => .ok slot
  | cell => .error (.wrongKind f.name .integer cell.kind)

/-- The slot of a field of truth values. -/
def logicalSlot (name : String) : Except Error (Fin 40) := do
  let f ← Schema.field name
  match f.cell with
  | .logical slot => .ok slot
  | cell => .error (.wrongKind f.name .logical cell.kind)

/-- The slot of a field of symbols, with the symbols that it accepts. -/
def symbolSlot (name : String) : Except Error (Fin 40 × List String) := do
  let f ← Schema.field name
  match f.cell with
  | .enumerated slot accepted => .ok (slot, accepted)
  | cell => .error (.wrongKind f.name .enumerated cell.kind)

/-- The span of a field of text. -/
def textSpan (name : String) : Except Error TextSpan := do
  let f ← Schema.field name
  match f.cell with
  | .text span => .ok span
  | cell => .error (.wrongKind f.name .text cell.kind)

/-- The real number of the field of a name. -/
def getReal (h : Header) (name : String) : Except Error (Option Single) := do
  .ok (h.real? (← realSlot name))

/-- The integer of the field of a name. -/
def getInteger (h : Header) (name : String) : Except Error (Option Int32) := do
  .ok (h.integer? (← integerSlot name))

/-- The truth value of the field of a name. -/
def getLogical (h : Header) (name : String) : Except Error (Option Bool) := do
  h.logical? name (← logicalSlot name)

/-- The symbol of the field of a name. -/
def getSymbol (h : Header) (name : String) : Except Error (Option String) := do
  let (slot, accepted) ← symbolSlot name
  h.symbol? name slot accepted

/-- The text of the field of a name. -/
def getText (h : Header) (name : String) : Except Error (Option String) := do
  .ok (h.text? (← textSpan name))

/-- The text of the field of a name with its padding, also where it is null; nothing is
stored as text for fields of other kinds. -/
def getRawText (h : Header) (name : String) : Except Error (List Char) := do
  match (← Schema.field name).cell with
  | .text span => .ok (h.rawText span)
  | _ => .ok []

/-- The instant of the relative time of a name. -/
def getInstant (h : Header) (name : String) : Except Error (Option Instant) := do
  h.instantAt (← relativeTimeSlot name)

end Header

end Seismogram
