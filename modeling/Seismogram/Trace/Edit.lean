/-
# Edits of a trace

An edit is an action on a trace that may fail.  It fails with the trace as it is at that
moment, so what was stored before the failure stays stored: an edit that stores a coordinate
and then cannot bring the distances up to date has stored the coordinate.

Fields are edited by name as any value, by name as one kind, or through a name with a kind.
Storing a coordinate or the flag `lcalda` brings the distances up to date; storing anything
else only stores.
-/
import Seismogram.Header.Name
import Seismogram.Trace.Basic

namespace Seismogram

open Seismogram.Number Seismogram.Time

/-- An action on a trace. -/
abbrev Edit (α : Type) := EStateM Error Trace α

namespace Edit

/-- An answer that depends on nothing but the trace. -/
def ask {α : Type} (answer : Trace → Except Error α) : Edit α := fun t =>
  match answer t with
  | .ok a => .ok a t
  | .error e => .error e t

/-- Another header for the trace, unless that fails. -/
def replaceHeader (change : Header → Except Error Header) : Edit Unit := fun t =>
  match change t.header with
  | .ok h => .ok () { t with header := h }
  | .error e => .error e t

/-- A change of the header that cannot fail. -/
def changeHeader (change : Header → Header) : Edit Unit := fun t =>
  .ok () { t with header := change t.header }

/-! ## Distances -/

/-- The distances brought up to date, on demand or where the flag asks for it. -/
def updateDistances (demanded : Bool) : Edit Unit :=
  replaceHeader (·.updateDistances demanded)

/-- Whether distances depend on what a cell holds. -/
def movesDistances : Cell → Bool
  | .real slot =>
    slot == Header.stationLatitudeSlot || slot == Header.stationLongitudeSlot
      || slot == Header.eventLatitudeSlot || slot == Header.eventLongitudeSlot
  | .logical slot => slot == Header.distancesFollowSlot
  | _ => false

/-- What follows the storing of a field. -/
def afterStoring (c : Cell) : Edit Unit :=
  if movesDistances c then updateDistances false else pure ()

/-! ## Any kind, by name -/

/-- A value stored in the field of a name. -/
def set (name : String) (v : Value) : Edit Unit := do
  let f ← ask fun _ => Schema.field name
  replaceHeader (·.store f v)
  afterStoring f.cell

/-- The field of a name made null. -/
def clear (name : String) : Edit Unit := do
  let f ← ask fun _ => Schema.field name
  changeHeader (·.erase f)
  afterStoring f.cell

/-! ## One kind, by name -/

/-- A real number, or nothing, stored in the field of a name. -/
def setReal (name : String) (x : Option Single) : Edit Unit := do
  let slot ← ask fun _ => Header.realSlot name
  changeHeader (·.setReal slot x)
  afterStoring (.real slot)

/-- An integer, or nothing, stored in the field of a name. -/
def setInteger (name : String) (n : Option Int32) : Edit Unit := do
  let slot ← ask fun _ => Header.integerSlot name
  changeHeader (·.setInteger slot n)

/-- A truth value, or nothing, stored in the field of a name. -/
def setLogical (name : String) (b : Option Bool) : Edit Unit := do
  let slot ← ask fun _ => Header.logicalSlot name
  changeHeader (·.setLogical slot b)
  afterStoring (.logical slot)

/-- A symbol, or nothing, stored in the field of a name. -/
def setSymbol (name : String) (symbol : Option String) : Edit Unit := do
  let (slot, accepted) ← ask fun _ => Header.symbolSlot name
  replaceHeader (·.setSymbol name slot accepted symbol)

/-- A text, or nothing, stored in the field of a name. -/
def setText (name : String) (s : Option String) : Edit Unit := do
  let span ← ask fun _ => Header.textSpan name
  changeHeader (·.setText span s)

/-- The distance of an instant from the reference time stored in the field of a name. -/
def setInstant (name : String) (t : Instant) : Edit Unit := do
  let slot ← ask fun _ => Header.relativeTimeSlot name
  replaceHeader (·.setInstant slot t)

/-! ## Reference time and samples -/

/-- The reference time moved. -/
def setReferenceTime (t : Instant) : Edit Unit := replaceHeader (·.setReferenceTime t)

/-- The samples replaced. -/
def setSamples (samples : Option (List Single)) : Edit Unit := fun t =>
  .ok () (t.setSamples samples)

/-- The samples taken out of the trace; the header is left as it is. -/
def takeSamples : Edit (Option (List Single)) := fun t =>
  .ok t.samples { t with samples := none }

/-- The byte order replaced. -/
def setOrder (o : ByteOrder) : Edit Unit := fun t => .ok () { t with order := o }

/-- The flag `lcalda`, and the distances if it is true. -/
def setDistancesFollow (b : Option Bool) : Edit Unit := do
  changeHeader (·.setLogical Header.distancesFollowSlot b)
  updateDistances false

end Edit

/-! ## Names with a kind -/

/-- The real number of a field. -/
def RealName.get (n : RealName) (h : Header) : Option Single := h.real? n.slot

/-- A real number, or nothing, stored in a field. -/
def RealName.set (n : RealName) (x : Option Single) : Edit Unit :=
  Edit.changeHeader (·.setReal n.slot x)

/-- A coordinate. -/
def Coordinate.get (n : Coordinate) (h : Header) : Option Single := h.real? n.slot

/-- A coordinate, or nothing, stored, and the distances brought up to date. -/
def Coordinate.set (n : Coordinate) (x : Option Single) : Edit Unit := do
  Edit.changeHeader (·.setReal n.slot x)
  Edit.updateDistances false

/-- The integer of a field. -/
def IntegerName.get (n : IntegerName) (h : Header) : Option Int32 := h.integer? n.slot

/-- An integer, or nothing, stored in a field. -/
def IntegerName.set (n : IntegerName) (x : Option Int32) : Edit Unit :=
  Edit.changeHeader (·.setInteger n.slot x)

/-- The truth value of a field. -/
def FlagName.get (n : FlagName) (h : Header) : Except Error (Option Bool) :=
  h.logical? n.name n.slot

/-- A truth value, or nothing, stored in a field. -/
def FlagName.set (n : FlagName) (b : Option Bool) : Edit Unit :=
  Edit.changeHeader (·.setLogical n.slot b)

/-- The symbol of a field. -/
def SymbolName.get (n : SymbolName) (h : Header) : Except Error (Option String) :=
  h.symbol? n.name n.slot n.accepted

/-- A symbol, or nothing, stored in a field. -/
def SymbolName.set (n : SymbolName) (symbol : Option String) : Edit Unit :=
  Edit.replaceHeader (·.setSymbol n.name n.slot n.accepted symbol)

/-- The text of a field. -/
def TextName.get (n : TextName) (h : Header) : Option String := h.text? n.span

/-- A text, or nothing, stored in a field. -/
def TextName.set (n : TextName) (s : Option String) : Edit Unit :=
  Edit.changeHeader (·.setText n.span s)

end Seismogram
