/-
# The binary layout

A binary file is the 70 real numbers, the 40 integers and the 192 text bytes of a header,
and after these 632 bytes the samples.  Words have four bytes, all in one order.  The order
of a file is found out from the word that holds the header's version: it must be a valid
version in the right order.
-/
import Seismogram.Header.Basic

namespace Seismogram.Binary

open Seismogram.Number

/-- The bytes of the real numbers. -/
def realBlockSize : Nat := 4 * realSlots

/-- The bytes of the integers. -/
def integerBlockSize : Nat := 4 * integerSlots

/-- The bytes of the text. -/
def textBlockSize : Nat := textSlotWidth * textSlots

/-- The bytes of a header. -/
def headerSize : Nat := realBlockSize + integerBlockSize + textBlockSize

/-- The offset of the header's version. -/
def versionOffset : Nat := realBlockSize + 4 * Header.versionSlot.val

/-- The integer of a word. -/
def integerOfWord (w : BitVec 32) : Int32 := .ofBitVec w

/-! ## Writing -/

/-- The bytes of a header. -/
def encodeHeader (o : ByteOrder) (h : Header) : List UInt8 :=
  o.allBytes (h.reals.toList.map Floating.bits)
    ++ o.allBytes (h.integers.toList.map Int32.toBitVec)
    ++ h.text.toList

/-- The bytes of samples. -/
def encodeSamples (o : ByteOrder) (samples : List Single) : List UInt8 :=
  o.allBytes (samples.map Floating.bits)

/-! ## Reading -/

/-- There are at least `expected` bytes. -/
def checkLength (data : List UInt8) (expected : Nat) : Except Error Unit :=
  if data.length < expected then .error (.tooShort expected data.length) else .ok ()

/-- The version word is there and valid in an order. -/
def isValidOrder (data : List UInt8) (o : ByteOrder) : Bool :=
  decide (versionOffset + 4 ≤ data.length)
    && validVersions.contains (integerOfWord (o.wordAt data versionOffset))

/-- The order in which the version of a header is valid, the little one if it is valid
in both. -/
def detectOrder (data : List UInt8) : Except Error ByteOrder := do
  checkLength data headerSize
  if isValidOrder data .little then .ok .little
  else if isValidOrder data .big then .ok .big
  else .error (.invalidByteOrder none)

/-- The header that the first bytes hold when they are read in an order. -/
def readHeader (o : ByteOrder) (data : List UInt8) : Header where
  reals := .ofFn fun i => ⟨o.wordAt data (4 * i.val)⟩
  integers := .ofFn fun i => integerOfWord (o.wordAt data (realBlockSize + 4 * i.val))
  text := .ofFn fun i => data.getD (realBlockSize + integerBlockSize + i.val) 0

/-- The header of a file and its order: the order that is asked for, if the version is
valid in it, or else the one that is found out. -/
def decodeHeader (data : List UInt8) (asked : Option ByteOrder) :
    Except Error (Header × ByteOrder) := do
  checkLength data headerSize
  let o ← match asked with
    | some o => if isValidOrder data o then .ok o else .error (.invalidByteOrder (some o))
    | none => detectOrder data
  .ok (readHeader o data, o)

/-- The first `count` samples of bytes that hold samples. -/
def decodeSamples (o : ByteOrder) (count : Nat) (data : List UInt8) :
    Except Error (List Single) := do
  checkLength data (4 * count)
  .ok ((o.words (data.take (4 * count))).map fun w => ⟨w⟩)

/-! ## Sizes -/

example : headerSize = 632 ∧ versionOffset = 304 := by decide

theorem length_encodeHeader (o : ByteOrder) (h : Header) :
    (encodeHeader o h).length = headerSize := by
  simp [encodeHeader, headerSize, realBlockSize, integerBlockSize, textBlockSize, realSlots,
    integerSlots, textSlots, textSlotWidth]

theorem length_encodeSamples (o : ByteOrder) (samples : List Single) :
    (encodeSamples o samples).length = 4 * samples.length := by
  simp [encodeSamples]

end Seismogram.Binary
