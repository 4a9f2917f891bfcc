/-
# Quoted texts in messages

A text in a message stands in double quotes.  The quote and the backslash are written with
a backslash before them, tab, line feed, carriage return and the null character by their
letters, and any other character that cannot be seen by its number.
-/
import Seismogram.Text.Unseen

namespace Seismogram.Text

/-- The number of a character, in lower-case hexadecimal digits between braces. -/
def numbered (c : Char) : List Char :=
  '\\' :: 'u' :: '\x7b' :: (Nat.toDigits 16 c.toNat ++ ['\x7d'])

/-- One character of a quoted text. -/
def quotedChar (c : Char) : List Char :=
  if c = '"' ∨ c = '\\' then ['\\', c]
  else if c = '\t' then ['\\', 't']
  else if c = '\n' then ['\\', 'n']
  else if c = '\r' then ['\\', 'r']
  else if c.toNat = 0 then ['\\', '0']
  else if isUnseen c then numbered c
  else [c]

/-- A text in quotes. -/
def quoted (text : List Char) : List Char := '"' :: (text.flatMap quotedChar ++ ['"'])

example : quoted ['a', '"', '\t'] = ['"', 'a', '\\', '"', '\\', 't', '"'] := by decide +kernel

end Seismogram.Text
