/-
# What can go wrong

An error is a cause with the things that it is about.  `Error.message` is the only place
where causes are put into words.
-/
import Seismogram.Header.Schema
import Seismogram.Header.Value
import Seismogram.Layout.ByteOrder
import Seismogram.Text.Quoted

namespace Seismogram

open Seismogram.Number Seismogram.Time

/-- The kinds of number in an alphanumeric file. -/
inductive NumberBlock
  | reals
  | integers
  | samples
deriving DecidableEq, Repr

/-- The kind of number as messages name it. -/
def NumberBlock.name : NumberBlock → String
  | reals => "float"
  | integers => "integer"
  | samples => "sample"

/-- What is wrong with an alphanumeric file. -/
inductive TextFault
  /-- Too few lines for a header. -/
  | headerLines (expected found : Nat)
  /-- A line of numbers that is no text. -/
  | notText (block : NumberBlock)
  /-- A word that is no number of its block. -/
  | notNumber (block : NumberBlock) (word : List Char)
  /-- The wrong number of numbers. -/
  | numberCount (block : NumberBlock) (expected found : Nat)
  /-- A line of header text that is too long; lines count from 1. -/
  | textLineWidth (line found expected : Nat)
  /-- A number of samples that cannot be one. -/
  | sampleCount (npts : Int32)
deriving DecidableEq

/-- What is wrong with a reference time. -/
inductive TimeFault
  /-- The six fields lead out of the calendar. -/
  | fields (values : List Int32)
  /-- The nearest millisecond is out of the calendar. -/
  | rounding (t : Instant)
  /-- A shift leads out of the calendar, or is no finite number of seconds. -/
  | shift (t : Instant) (seconds : Double)
deriving DecidableEq

/-- The causes of failure. -/
inductive Error
  /-- The header version is not valid in the order asked for, or in neither order. -/
  | invalidByteOrder (asked : Option ByteOrder)
  /-- No field has this name. -/
  | unknownField (name : String)
  /-- The field does not accept the symbol. -/
  | symbolNotAccepted (field symbol : String)
  /-- The stored code is not that of a symbol which the field accepts. -/
  | codeNotAccepted (field : String) (code : Int32)
  /-- The stored integer is no truth value. -/
  | notLogical (field : String) (stored : Int32)
  /-- The field is not of the kind that was asked for. -/
  | wrongKind (field : String) (expected actual : Kind)
  /-- The field cannot keep a value of this shape. -/
  | wrongShape (field : String) (kind : Kind) (shape : Shape)
  /-- A field of the reference time is null. -/
  | incompleteReferenceTime (field : String)
  /-- A time out of the calendar. -/
  | invalidReferenceTime (fault : TimeFault)
  /-- A coordinate that the distances need is null. -/
  | incompleteCoordinates (field : String)
  /-- A latitude beyond a pole. -/
  | invalidLatitude (latitude : Double)
  /-- There is no file of this name. -/
  | fileNotFound (path : String)
  /-- An alphanumeric file that cannot be read. -/
  | malformedText (fault : TextFault)
  /-- Too few bytes. -/
  | tooShort (expected actual : Nat)
  /-- More bytes than the header asks for. -/
  | sizeMismatch (expected actual : Nat)
  /-- A number of samples that cannot be one. -/
  | invalidSampleCount (npts : Int32)
  /-- Samples are promised and there are none. -/
  | missingSamples (npts : Int32)
  /-- A header by itself has no alphanumeric form. -/
  | headerOnlyText
  /-- The file system refused. -/
  | fileSystem
deriving DecidableEq

/-- A natural number in a message. -/
def natText (n : Nat) : String := String.ofList (Decimal.digits n)

/-- An integer in a message. -/
def intText (n : Int32) : String := String.ofList (Decimal.integer n.toInt)

/-- A 64-bit number in a message. -/
def realText (x : Double) : String := String.ofList (Decimal.shortest x)

/-- Integers in a message, in brackets. -/
def intListText (ns : List Int32) : String := "[" ++ ", ".intercalate (ns.map intText) ++ "]"

/-- A number of samples that cannot be one, in words. -/
def sampleCountMessage (npts : Int32) : String :=
  "npts " ++ intText npts ++ " is not a valid sample count"

/-- The fault of an alphanumeric file in words. -/
def TextFault.message : TextFault → String
  | headerLines expected found =>
    "expected at least " ++ natText expected ++ " header lines, found " ++ natText found
  | notText block => "non-UTF-8 " ++ block.name ++ " line"
  | notNumber block word =>
    "invalid " ++ block.name ++ " token " ++ String.ofList (Text.quoted word)
  | numberCount block expected found =>
    "expected " ++ natText expected ++ " " ++ block.name ++ " values, found " ++ natText found
  | textLineWidth line found expected =>
    "string line " ++ natText line ++ " is " ++ natText found ++ " columns wide, expected "
      ++ natText expected
  | sampleCount npts => sampleCountMessage npts

/-- The fault of a time in words. -/
def TimeFault.message : TimeFault → String
  | fields values => intListText values
  | rounding t => String.ofList t.joined
  | shift t seconds => String.ofList t.spaced ++ " shifted by " ++ realText seconds ++ " s"

/-- The error in words.  A refusal of the file system has none: its words are not ours. -/
def Error.message : Error → Option String
  | invalidByteOrder asked =>
    some ("header version field is not valid as "
      ++ (asked.map ByteOrder.description).getD "either byte order")
  | unknownField name => some ("unknown SAC header: " ++ name)
  | symbolNotAccepted field symbol =>
    some ("invalid value " ++ String.ofList (Text.quoted symbol.toList)
      ++ " for enumerated header " ++ field)
  | codeNotAccepted field code =>
    some ("stored code " ++ intText code ++ " is not an accepted value of header " ++ field)
  | notLogical field stored =>
    some ("stored value " ++ intText stored ++ " of logical header " ++ field
      ++ " is neither 0 nor 1")
  | wrongKind field expected actual =>
    some ("header " ++ field ++ " holds " ++ expected.name ++ " values, got " ++ actual.name)
  | wrongShape field kind shape =>
    some ("header " ++ field ++ " holds " ++ kind.name ++ " values, got " ++ shape.name)
  | incompleteReferenceTime field =>
    some ("reference time is incomplete: " ++ field ++ " is null")
  | invalidReferenceTime fault =>
    some ("reference time is not representable: " ++ fault.message)
  | incompleteCoordinates field =>
    some ("distance computation needs stla, stlo, evla and evlo; " ++ field ++ " is null")
  | invalidLatitude latitude =>
    some ("latitude " ++ realText latitude ++ " is outside [-90, 90]")
  | fileNotFound path => some ("file not found: " ++ path)
  | malformedText fault => some ("malformed alphanumeric SAC data: " ++ fault.message)
  | tooShort expected actual =>
    some ("data too short: expected at least " ++ natText expected ++ " bytes, got "
      ++ natText actual)
  | sizeMismatch expected actual =>
    some ("file size mismatch: header implies " ++ natText expected ++ " bytes, file has "
      ++ natText actual)
  | invalidSampleCount npts => some (sampleCountMessage npts)
  | missingSamples npts => some ("trace has no samples but npts is " ++ intText npts)
  | headerOnlyText => some "header-only writes are not supported for alphanumeric files"
  | fileSystem => none

end Seismogram
