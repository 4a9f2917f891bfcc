/-
# Characters in bytes

UTF-8 in three directions: the bytes of a text, the text of bytes that are well formed, and
the text of any bytes, where what is not a character becomes a replacement character.

Bytes are read by recursion on their list.  After a character of several bytes the reader
passes over the rest of them, so it carries the number of bytes still to be passed over.
-/

namespace Seismogram.Text

/-- The bytes of a list of characters. -/
def utf8 (text : List Char) : List UInt8 := text.flatMap String.utf8EncodeChar

@[simp] theorem utf8_nil : utf8 [] = [] := rfl

@[simp] theorem utf8_cons (c : Char) (cs : List Char) :
    utf8 (c :: cs) = String.utf8EncodeChar c ++ utf8 cs := rfl

@[simp] theorem utf8_append (cs ds : List Char) : utf8 (cs ++ ds) = utf8 cs ++ utf8 ds := by
  simp [utf8]

/-- The character that the bytes begin with, if they begin with one. -/
def leadingChar? (bytes : List UInt8) : Option Char :=
  (bytes.take 4).toByteArray.utf8DecodeChar? 0

theorem leadingChar?_utf8EncodeChar_append (c : Char) (rest : List UInt8) :
    leadingChar? (String.utf8EncodeChar c ++ rest) = some c := by
  have short : (String.utf8EncodeChar c).length ≤ 4 := by
    simpa using c.utf8Size_le_four
  simp [leadingChar?, List.take_append, List.take_of_length_le short,
    ByteArray.utf8DecodeChar?_utf8EncodeChar_append]

/-- The text of bytes after `skip` of them, or nothing if they are not well formed. -/
def decodeAfter? (skip : Nat) : List UInt8 → Option (List Char)
  | [] => some []
  | b :: bs =>
    match skip with
    | skip + 1 => decodeAfter? skip bs
    | 0 =>
      match leadingChar? (b :: bs) with
      | some c => (decodeAfter? (c.utf8Size - 1) bs).map (c :: ·)
      | none => none

/-- The text of well-formed bytes. -/
def decode? (bytes : List UInt8) : Option (List Char) := decodeAfter? 0 bytes

/-- The bytes from `0x80` to `0xBF`, which continue a character. -/
def isContinuation (b : UInt8) : Bool := decide (0x80 ≤ b ∧ b ≤ 0xBF)

/-- The second bytes that may follow a first byte of a character of three or four bytes.
The ranges leave out overlong forms, surrogates and numbers past the last character. -/
def mayFollow (first second : UInt8) : Bool :=
  if first = 0xE0 then decide (0xA0 ≤ second ∧ second ≤ 0xBF)
  else if first = 0xED then decide (0x80 ≤ second ∧ second ≤ 0x9F)
  else if first = 0xF0 then decide (0x90 ≤ second ∧ second ≤ 0xBF)
  else if first = 0xF4 then decide (0x80 ≤ second ∧ second ≤ 0x8F)
  else decide (0xE1 ≤ first ∧ first ≤ 0xF3) && isContinuation second

/-- The length of the longest beginning of some character that the bytes begin with, where
they do not begin with a whole one; at least one byte. -/
def brokenLength : List UInt8 → Nat
  | first :: second :: rest =>
    if mayFollow first second then
      match rest with
      | third :: _ => if 0xF0 ≤ first && isContinuation third then 3 else 2
      | [] => 2
    else 1
  | _ => 1

/-- The character that stands for bytes that are no character. -/
def replacement : Char := '\uFFFD'

/-- The text of any bytes after `skip` of them. -/
def lossyAfter (skip : Nat) : List UInt8 → List Char
  | [] => []
  | b :: bs =>
    match skip with
    | skip + 1 => lossyAfter skip bs
    | 0 =>
      match leadingChar? (b :: bs) with
      | some c => c :: lossyAfter (c.utf8Size - 1) bs
      | none => replacement :: lossyAfter (brokenLength (b :: bs) - 1) bs

/-- The text of any bytes: each longest broken beginning of a character becomes one
replacement character. -/
def lossy (bytes : List UInt8) : List Char := lossyAfter 0 bytes

/-! ## Reading back what was written -/

theorem decodeAfter?_append (skipped rest : List UInt8) :
    decodeAfter? skipped.length (skipped ++ rest) = decodeAfter? 0 rest := by
  induction skipped with
  | nil => rfl
  | cons b bs ih => simpa [decodeAfter?] using ih

theorem lossyAfter_append (skipped rest : List UInt8) :
    lossyAfter skipped.length (skipped ++ rest) = lossyAfter 0 rest := by
  induction skipped with
  | nil => rfl
  | cons b bs ih => simpa [lossyAfter] using ih

theorem utf8EncodeChar_eq_cons (c : Char) :
    ∃ b bs, String.utf8EncodeChar c = b :: bs ∧ bs.length = c.utf8Size - 1 := by
  cases h : String.utf8EncodeChar c with
  | nil => exact absurd h String.utf8EncodeChar_ne_nil
  | cons b bs =>
    have : (b :: bs).length = c.utf8Size := by rw [← h]; simp
    exact ⟨b, bs, rfl, by simp at this; omega⟩

@[simp] theorem decode?_utf8_cons (c : Char) (rest : List UInt8) :
    decode? (String.utf8EncodeChar c ++ rest) = (decode? rest).map (c :: ·) := by
  obtain ⟨b, bs, h, len⟩ := utf8EncodeChar_eq_cons c
  have lead := leadingChar?_utf8EncodeChar_append c rest
  rw [h] at lead
  rw [decode?, h, List.cons_append, decodeAfter?]
  rw [List.cons_append] at lead
  rw [lead]
  simp only [← len, decodeAfter?_append]
  rfl

@[simp] theorem lossy_utf8_cons (c : Char) (rest : List UInt8) :
    lossy (String.utf8EncodeChar c ++ rest) = c :: lossy rest := by
  obtain ⟨b, bs, h, len⟩ := utf8EncodeChar_eq_cons c
  have lead := leadingChar?_utf8EncodeChar_append c rest
  rw [h] at lead
  rw [lossy, h, List.cons_append, lossyAfter]
  rw [List.cons_append] at lead
  rw [lead]
  simp only [← len, lossyAfter_append]
  rfl

/-- A text is read back from its bytes. -/
theorem decode?_utf8 (text : List Char) : decode? (utf8 text) = some text := by
  induction text with
  | nil => rfl
  | cons c cs ih => simp [ih]

/-- Bytes of a text hold nothing to be replaced. -/
theorem lossy_utf8 (text : List Char) : lossy (utf8 text) = text := by
  induction text with
  | nil => rfl
  | cons c cs ih => simp [ih]

end Seismogram.Text
