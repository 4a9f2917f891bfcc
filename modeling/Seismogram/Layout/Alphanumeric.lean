/-
# The alphanumeric layout

The same header as text, line by line:

* 14 lines of five real numbers, each in a column of 15;
* 8 lines of five integers, each in a column of 10;
* 8 lines of three text slots, byte for byte;
* the samples, five to a line in columns of 15.

Lines of numbers are read as words between white space, in any distribution over the lines
of their block, so that other column widths are read too.  Lines of text are read by
position, and shorter ones are filled up with blanks.  Lines end with a line feed, which a
carriage return may precede.
-/
import Seismogram.Decimal.Numeral
import Seismogram.Header.Basic
import Seismogram.Text.Pieces

namespace Seismogram.Alphanumeric

open Seismogram.Number

/-- The numbers of a line. -/
def numbersPerLine : Nat := 5

/-- The lines of real numbers. -/
def realLines : Nat := realSlots / numbersPerLine

/-- The lines of integers. -/
def integerLines : Nat := integerSlots / numbersPerLine

/-- The text slots of a line. -/
def slotsPerLine : Nat := 3

/-- The lines of text. -/
def textLines : Nat := textSlots / slotsPerLine

/-- The bytes of a line of text. -/
def textLineWidth : Nat := slotsPerLine * textSlotWidth

/-- The lines of a header. -/
def headerLines : Nat := realLines + integerLines + textLines

/-- The width of a column of integers. -/
def integerColumnWidth : Nat := 10

/-- The byte that ends a line. -/
def lineFeed : UInt8 := 0x0A

/-- The byte that may precede the end of a line. -/
def carriageReturn : UInt8 := 0x0D

/-! ## Writing -/

/-- Elements in rows of `width`, where the last row may be shorter; `begun` holds the
latest elements of the first row, in reverse. -/
def rowsFrom {α : Type} (width : Nat) (begun : List α) : List α → List (List α)
  | [] => if begun.isEmpty then [] else [begun.reverse]
  | x :: xs =>
    if begun.length + 1 < width then rowsFrom width (x :: begun) xs
    else (x :: begun).reverse :: rowsFrom width [] xs

/-- Elements in rows of `width`, where the last row may be shorter. -/
def rows {α : Type} (width : Nat) (xs : List α) : List (List α) := rowsFrom width [] xs

/-- The lines of numbers that have a column form. -/
def numberLines {α : Type} (column : α → List Char) (xs : List α) : List (List UInt8) :=
  (rows numbersPerLine xs).map fun row => Text.utf8 (row.flatMap column)

/-- An integer in its column. -/
def integerColumn (n : Int32) : List Char := Decimal.integerColumn integerColumnWidth n.toInt

/-- The lines of a header. -/
def headerToLines (h : Header) : List (List UInt8) :=
  numberLines Decimal.column h.reals.toList
    ++ numberLines integerColumn h.integers.toList
    ++ rows textLineWidth h.text.toList

/-- The bytes of lines. -/
def joinLines (lines : List (List UInt8)) : List UInt8 := lines.flatMap fun l => l ++ [lineFeed]

/-- The file of a header and of samples, if there are any. -/
def encode (h : Header) (samples : Option (List Single)) : List UInt8 :=
  joinLines (headerToLines h ++ numberLines Decimal.column (samples.getD []))

/-! ## Reading -/

/-- The pieces between line feeds. -/
def splitLines (data : List UInt8) : List (List UInt8) := Text.pieces (· == lineFeed) data

/-- A line without the carriage return at its end, if it has one. -/
def withoutReturn (line : List UInt8) : List UInt8 :=
  if line.getLast? = some carriageReturn then line.dropLast else line

/-- The lines of a file.  What follows the last line end is a line unless it is empty. -/
def linesOf (data : List UInt8) : List (List UInt8) :=
  let lines := (splitLines data).map withoutReturn
  if lines.getLast? = some [] then lines.dropLast else lines

/-- The failure of a file that is not well formed. -/
def malformed {α : Type} (fault : TextFault) : Except Error α := .error (.malformedText fault)

/-- One word as a number of its block. -/
def readWord {α : Type} (block : NumberBlock) (read? : List Char → Option α)
    (word : List Char) : Except Error α :=
  match read? word with
  | some x => .ok x
  | none => malformed (.notNumber block word)

/-- The numbers of one line. -/
def readLine {α : Type} (block : NumberBlock) (read? : List Char → Option α)
    (line : List UInt8) : Except Error (List α) :=
  match Text.decode? line with
  | some text => (Text.words text).mapM (readWord block read?)
  | none => malformed (.notText block)

/-- The numbers of a block of lines, of which there must be `count`. -/
def readNumbers {α : Type} (block : NumberBlock) (read? : List Char → Option α) (count : Nat)
    (lines : List (List UInt8)) : Except Error (Vector α count) := do
  let numbers := (← lines.mapM (readLine block read?)).flatten
  if h : numbers.length = count then .ok ⟨numbers.toArray, by simpa using h⟩
  else malformed (.numberCount block count numbers.length)

/-- A word as a real number. -/
def readReal (word : List Char) : Option Single := Decimal.real? .single word

/-- A word as an integer, which has to fit its header word. -/
def readInteger (word : List Char) : Option Int32 :=
  match Decimal.integer? word with
  | some n => if Int32.minValue.toInt ≤ n ∧ n ≤ Int32.maxValue.toInt then some (.ofInt n) else none
  | none => none

/-- The bytes of one line of text; lines are numbered from 1. -/
def readTextLine (line : List UInt8 × Nat) : Except Error (List UInt8) :=
  if line.1.length ≤ textLineWidth then .ok (line.1.rightpad textLineWidth blankByte)
  else malformed (.textLineWidth line.2 line.1.length textLineWidth)

/-- The bytes of the lines of text. -/
def readText (lines : List (List UInt8)) : Except Error (Vector UInt8 192) := do
  let bytes := (← (lines.zipIdx 1).mapM readTextLine).flatten
  .ok (.ofFn fun i => bytes.getD i.val blankByte)

/-- The header of the lines of a file. -/
def readHeader (lines : List (List UInt8)) : Except Error Header := do
  if lines.length < headerLines then malformed (.headerLines headerLines lines.length)
  let reals ← readNumbers .reals readReal 70 (lines.take realLines)
  let integers ←
    readNumbers .integers readInteger 40 ((lines.drop realLines).take integerLines)
  let text ← readText ((lines.drop (realLines + integerLines)).take textLines)
  .ok { reals, integers, text }

/-- The number of samples that a header asks for. -/
def sampleCount (h : Header) : Except Error Nat :=
  match h.sampleCount with
  | .error (.invalidSampleCount npts) => malformed (.sampleCount npts)
  | other => other

/-- The header of a file and, unless only the header is asked for, its samples. -/
def decode (data : List UInt8) (headerOnly : Bool) :
    Except Error (Header × Option (List Single)) := do
  let lines := linesOf data
  let h ← readHeader lines
  if headerOnly then .ok (h, none)
  else
    let count ← sampleCount h
    let samples ← readNumbers .samples readReal count (lines.drop headerLines)
    .ok (h, some samples.toList)

end Seismogram.Alphanumeric
