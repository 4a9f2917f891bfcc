/-
# Header values

A value is what a field is read as or is to be set to.  Enumerated fields exchange their
symbol as text; an absolute time can only be given to a field of relative time, which keeps
its distance from the reference time.
-/
import Seismogram.Decimal.Shortest
import Seismogram.Number.Arithmetic
import Seismogram.Time.Stamp

namespace Seismogram

open Seismogram.Number Seismogram.Time

/-- The shapes of value. -/
inductive Shape
  | real
  | integer
  | logical
  /-- Text, or a symbol. -/
  | text
  /-- An absolute time. -/
  | time
deriving DecidableEq, Repr

/-- The shape as messages name it. -/
def Shape.name : Shape → String
  | real => "float"
  | integer => "integer"
  | logical => "logical"
  | text => "text"
  | time => "absolute time"

/-- A header value. -/
inductive Value
  | real (x : Single)
  | integer (n : Int32)
  | logical (b : Bool)
  /-- Text, or a symbol. -/
  | text (s : String)
  /-- An absolute time. -/
  | time (t : Instant)
deriving DecidableEq

namespace Value

/-- The shape of a value. -/
def shape : Value → Shape
  | real _ => .real
  | integer _ => .integer
  | logical _ => .logical
  | text _ => .text
  | time _ => .time

/-- The value of a 64-bit number, rounded to a word. -/
def ofDouble (x : Double) : Value := .real x.narrow

/-- The value as a real number, an integer rounded to a word. -/
def real? : Value → Option Single
  | real x => some x
  | integer n => some (.ofInt n.toInt)
  | _ => none

/-- The value as an integer, where it is one. -/
def integer? : Value → Option Int32
  | integer n => some n
  | _ => none

/-- The value as a truth value, where it is one. -/
def logical? : Value → Option Bool
  | logical b => some b
  | _ => none

/-- The value as text, where it is text. -/
def text? : Value → Option String
  | text s => some s
  | _ => none

/-- The text of a value in a listing. -/
def listed : Value → String
  | real x => String.ofList (Decimal.shortest x)
  | integer n => String.ofList (Decimal.integer n.toInt)
  | logical b => if b then "true" else "false"
  | text s => s
  | time t => String.ofList t.listed

end Value

end Seismogram
