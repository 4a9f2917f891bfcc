/-
# The header

A header holds its words and text bytes exactly as a file does.  A slot that is not set
holds a sentinel: -12345 as a number or as text.  Reading a slot turns the sentinel into
nothing, and writing nothing stores it.

Text is blank-padded to the width of its span and cut off at the last whole character that
fits.  It reads back without the blanks and null characters at its end, and is null when it
holds nothing but the sentinel, once for each slot or only once.
-/
import Seismogram.Error
import Seismogram.Header.Symbol
import Seismogram.Text.Utf8

namespace Seismogram

open Seismogram.Number Seismogram.Text

/-- The sentinel of real numbers: -12345. -/
def nullReal : Single := ⟨0xC640E400⟩

/-- The sentinel of integers, of truth values and of codes. -/
def nullInteger : Int32 := -12345

/-- The characters of the sentinel of text, before padding. -/
def nullWord : List Char := ['-', '1', '2', '3', '4', '5']

/-- The sentinel of text. -/
def nullText : String := String.ofList nullWord

/-- The byte that pads text. -/
def blankByte : UInt8 := 0x20

/-- The versions of the header that are read. -/
def validVersions : List Int32 := [6]

/-- The version of the header that is written. -/
def defaultVersion : Int32 := 6

/-- The words and text bytes of a header. -/
structure Header where
  reals : Vector Single 70
  integers : Vector Int32 40
  /-- The text slots, one after the other. -/
  text : Vector UInt8 192
deriving DecidableEq

/-! ## Text in a span -/

/-- The longest beginning of a text that takes up at most `width` bytes. -/
def fitting (width : Nat) : List Char → List Char
  | [] => []
  | c :: cs => if c.utf8Size ≤ width then c :: fitting (width - c.utf8Size) cs else []

/-- The bytes that store a text in `width` bytes. -/
def paddedText (width : Nat) (text : List Char) : List UInt8 :=
  (utf8 (fitting width text)).rightpad width blankByte

/-- A character that pads text at its end. -/
def isPadding (c : Char) : Bool := c == ' ' || c == '\x00'

/-- The text without its padding. -/
def unpadded (text : List Char) : List Char := trimEnd isPadding text

/-- The text holds nothing but the sentinel: something is left without the padding, and
each word of it is the sentinel. -/
def isNullText (text : List Char) : Bool :=
  !(unpadded text).isEmpty && (words (unpadded text)).all (· == nullWord)

/-- A list of bytes written over part of another from an offset on. -/
def overwrite {n : Nat} (old : Vector UInt8 n) (offset : Nat) (new : List UInt8) :
    Vector UInt8 n :=
  Vector.ofFn fun i =>
    if offset ≤ i.val then (new[i.val - offset]?).getD old[i] else old[i]

namespace Header

/-! ## Slots -/

/-- The real number that a slot holds, also where that is the sentinel. -/
def storedReal (h : Header) (slot : Fin 70) : Single := h.reals[slot]

/-- The real number of a slot, nothing if it is null. -/
def real? (h : Header) (slot : Fin 70) : Option Single :=
  if h.storedReal slot = nullReal then none else some (h.storedReal slot)

/-- The header with a real number, or the sentinel, in a slot. -/
def setReal (h : Header) (slot : Fin 70) (x : Option Single) : Header :=
  { h with reals := h.reals.set slot (x.getD nullReal) }

/-- The integer that a slot holds, also where that is the sentinel. -/
def storedInteger (h : Header) (slot : Fin 40) : Int32 := h.integers[slot]

/-- The integer of a slot, nothing if it is null. -/
def integer? (h : Header) (slot : Fin 40) : Option Int32 :=
  if h.storedInteger slot = nullInteger then none else some (h.storedInteger slot)

/-- The header with an integer, or the sentinel, in a slot. -/
def setInteger (h : Header) (slot : Fin 40) (n : Option Int32) : Header :=
  { h with integers := h.integers.set slot (n.getD nullInteger) }

/-- The header with the real number that another header has in a slot. -/
def copyReal (h source : Header) (slot : Fin 70) : Header :=
  { h with reals := h.reals.set slot (source.storedReal slot) }

/-- The header with the integer that another header has in a slot. -/
def copyInteger (h source : Header) (slot : Fin 40) : Header :=
  { h with integers := h.integers.set slot (source.storedInteger slot) }

/-- The bytes of a span. -/
def textBytes (h : Header) (span : TextSpan) : List UInt8 :=
  (h.text.toList.drop span.offset).take span.width

/-- The text of a span with its padding. -/
def rawText (h : Header) (span : TextSpan) : List Char := lossy (h.textBytes span)

/-- The text of a span, nothing if it is null. -/
def text? (h : Header) (span : TextSpan) : Option String :=
  let raw := h.rawText span
  if isNullText raw then none else some (String.ofList (unpadded raw))

/-- The header with a text, or the sentinel, in a span. -/
def setText (h : Header) (span : TextSpan) (s : Option String) : Header :=
  let bytes := paddedText span.width ((s.map String.toList).getD nullWord)
  { h with text := overwrite h.text span.offset bytes }

/-! ## Integers that stand for something else -/

/-- The integer that stands for a truth value. -/
def ofBool (b : Bool) : Int32 := if b then 1 else 0

/-- The truth value of a slot, nothing if it is null; `name` is the field's. -/
def logical? (h : Header) (name : String) (slot : Fin 40) : Except Error (Option Bool) :=
  match h.integer? slot with
  | none => .ok none
  | some stored =>
    if stored = 0 then .ok (some false)
    else if stored = 1 then .ok (some true)
    else .error (.notLogical name stored)

/-- The header with a truth value, or the sentinel, in a slot. -/
def setLogical (h : Header) (slot : Fin 40) (b : Option Bool) : Header :=
  h.setInteger slot (b.map ofBool)

/-- The symbol of a slot, nothing if it is null; `name` is the field's. -/
def symbol? (h : Header) (name : String) (slot : Fin 40) (accepted : List String) :
    Except Error (Option String) :=
  match h.integer? slot with
  | none => .ok none
  | some code =>
    match Symbol.ofCode? code with
    | some symbol =>
      if accepted.contains symbol then .ok (some symbol) else .error (.codeNotAccepted name code)
    | none => .error (.codeNotAccepted name code)

/-- The header with the code of a symbol, or the sentinel, in a slot; `name` is the
field's. -/
def setSymbol (h : Header) (name : String) (slot : Fin 40) (accepted : List String)
    (symbol : Option String) : Except Error Header :=
  match symbol with
  | none => .ok (h.setInteger slot none)
  | some s =>
    match if accepted.contains s then Symbol.code? s else none with
    | some code => .ok (h.setInteger slot (some code))
    | none => .error (.symbolNotAccepted name s)

/-! ## The null header -/

/-- Every number null, every text byte blank. -/
def blank : Header where
  reals := Vector.replicate 70 nullReal
  integers := Vector.replicate 40 nullInteger
  text := Vector.replicate 192 blankByte

/-- Every field null. -/
def null : Header :=
  Schema.fields.foldl (fun h f =>
    match f.cell with
    | .text span => h.setText span none
    | _ => h) blank

/-! ## Slots that the rest of the library knows by name -/

/-- The sample interval in seconds. -/
def deltaSlot : Fin 70 := 0
/-- The least sample. -/
def leastSlot : Fin 70 := 1
/-- The greatest sample. -/
def greatestSlot : Fin 70 := 2
/-- The time of the first sample. -/
def beginSlot : Fin 70 := 5
/-- The time of the last sample. -/
def endSlot : Fin 70 := 6
/-- The latitude of the station. -/
def stationLatitudeSlot : Fin 70 := 31
/-- The longitude of the station. -/
def stationLongitudeSlot : Fin 70 := 32
/-- The latitude of the event. -/
def eventLatitudeSlot : Fin 70 := 35
/-- The longitude of the event. -/
def eventLongitudeSlot : Fin 70 := 36
/-- The distance of station and event in kilometres. -/
def distanceSlot : Fin 70 := 50
/-- The direction from the event to the station. -/
def azimuthSlot : Fin 70 := 51
/-- The direction from the station to the event. -/
def backAzimuthSlot : Fin 70 := 52
/-- The distance of station and event in degrees of arc. -/
def arcSlot : Fin 70 := 53
/-- The mean of the samples. -/
def meanSlot : Fin 70 := 56
/-- The version of the header. -/
def versionSlot : Fin 40 := 6
/-- The number of samples. -/
def countSlot : Fin 40 := 9
/-- The kind of file. -/
def fileTypeSlot : Fin 40 := 15
/-- What the reference time is the time of. -/
def referenceEventSlot : Fin 40 := 17
/-- Whether the samples are evenly spaced. -/
def evenSlot : Fin 40 := 35
/-- Whether the file may be written over. -/
def overwriteSlot : Fin 40 := 37
/-- Whether distances follow the coordinates. -/
def distancesFollowSlot : Fin 40 := 38

/-- The slots of the reference time, with the names of their fields. -/
def referenceSlots : List (String × Fin 40) :=
  [("nzyear", 0), ("nzjday", 1), ("nzhour", 2), ("nzmin", 3), ("nzsec", 4), ("nzmsec", 5)]

/-- The slots that the schema gives to the names used here. -/
theorem named_slots :
    [("delta", deltaSlot), ("depmin", leastSlot), ("depmax", greatestSlot),
     ("stla", stationLatitudeSlot), ("stlo", stationLongitudeSlot), ("evla", eventLatitudeSlot),
     ("evlo", eventLongitudeSlot), ("dist", distanceSlot), ("az", azimuthSlot),
     ("baz", backAzimuthSlot), ("gcarc", arcSlot), ("depmen", meanSlot)].all
      (fun (name, slot) => (Schema.find? name).any fun f => f.cell == .real slot) ∧
    [("b", beginSlot), ("e", endSlot)].all
      (fun (name, slot) => (Schema.find? name).any fun f => f.cell == .relativeTime slot) ∧
    (referenceSlots ++ [("nvhdr", versionSlot), ("npts", countSlot)]).all
      (fun (name, slot) => (Schema.find? name).any fun f => f.cell == .integer slot) ∧
    [("leven", evenSlot), ("lovrok", overwriteSlot), ("lcalda", distancesFollowSlot)].all
      (fun (name, slot) => (Schema.find? name).any fun f => f.cell == .logical slot) ∧
    [("iftype", fileTypeSlot), ("iztype", referenceEventSlot)].all
      (fun (name, slot) => (Schema.find? name).any fun f =>
        f.cell == .enumerated slot f.cell.accepted) := by
  decide +kernel

/-- The number of samples that the header promises; none if it is null. -/
def sampleCount (h : Header) : Except Error Nat :=
  match h.integer? countSlot with
  | none => .ok 0
  | some n => if n < 0 then .error (.invalidSampleCount n) else .ok n.toInt.toNat

end Header

/-! ## Sentinels as values -/

/-- The sentinel of a kind of field, as a value. -/
def nullValue : Kind → Value
  | .real | .relativeTime => .real nullReal
  | .integer | .logical | .enumerated => .integer nullInteger
  | .text => .text nullText

/-- The value is a sentinel for a kind of field. -/
def isNullValue : Kind → Value → Bool
  | .real, .real x | .relativeTime, .real x => decide (x = nullReal)
  | .integer, .integer n | .logical, .integer n | .enumerated, .integer n =>
    decide (n = nullInteger)
  | .text, .text s => isNullText s.toList
  | _, _ => false

theorem isNullValue_nullValue (k : Kind) : isNullValue k (nullValue k) = true := by
  cases k <;> decide +kernel

end Seismogram
