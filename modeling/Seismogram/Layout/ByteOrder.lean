/-
# Words of four bytes

The words of a file are read and written with their least or with their most significant
byte first.  One order is used for a whole file.
-/

namespace Seismogram

/-- Which byte of a word comes first. -/
inductive ByteOrder
  /-- The least significant. -/
  | little
  /-- The most significant. -/
  | big
deriving DecidableEq, Repr, Inhabited

namespace ByteOrder

/-- The order as messages name it. -/
def description : ByteOrder → String
  | little => "little-endian"
  | big => "big-endian"

/-- The bytes of a word, the least significant first. -/
def littleBytes (w : BitVec 32) : List UInt8 :=
  [.ofNat w.toNat, .ofNat (w.toNat / 256), .ofNat (w.toNat / 65536), .ofNat (w.toNat / 16777216)]

/-- The word of four bytes, the least significant first. -/
def ofLittleBytes (a b c d : UInt8) : BitVec 32 :=
  .ofNat 32 (a.toNat + 256 * b.toNat + 65536 * c.toNat + 16777216 * d.toNat)

/-- The bytes of a word. -/
def bytes : ByteOrder → BitVec 32 → List UInt8
  | little, w => littleBytes w
  | big, w => (littleBytes w).reverse

/-- The word of four bytes. -/
def word : ByteOrder → UInt8 → UInt8 → UInt8 → UInt8 → BitVec 32
  | little, a, b, c, d => ofLittleBytes a b c d
  | big, a, b, c, d => ofLittleBytes d c b a

/-- The word at an offset; zero where there are not four bytes. -/
def wordAt (o : ByteOrder) (data : List UInt8) (offset : Nat) : BitVec 32 :=
  match data.drop offset with
  | a :: b :: c :: d :: _ => o.word a b c d
  | _ => 0

/-- The bytes of consecutive words. -/
def allBytes (o : ByteOrder) (ws : List (BitVec 32)) : List UInt8 := ws.flatMap o.bytes

/-- Consecutive words; up to three bytes at the end are left over. -/
def words (o : ByteOrder) : List UInt8 → List (BitVec 32)
  | a :: b :: c :: d :: rest => o.word a b c d :: words o rest
  | _ => []

/-! ## Words are read back from their bytes -/

@[simp] theorem length_bytes (o : ByteOrder) (w : BitVec 32) : (o.bytes w).length = 4 := by
  cases o <;> rfl

theorem ofLittleBytes_of_toNat (w : BitVec 32) :
    ofLittleBytes (.ofNat w.toNat) (.ofNat (w.toNat / 256)) (.ofNat (w.toNat / 65536))
      (.ofNat (w.toNat / 16777216)) = w := by
  apply BitVec.eq_of_toNat_eq
  have := w.isLt
  simp only [ofLittleBytes, BitVec.toNat_ofNat, UInt8.toNat_ofNat']
  omega

/-- The bytes of the word of four bytes are those bytes. -/
@[simp] theorem bytes_word (o : ByteOrder) (a b c d : UInt8) :
    o.bytes (o.word a b c d) = [a, b, c, d] := by
  have little (a b c d : UInt8) : littleBytes (ofLittleBytes a b c d) = [a, b, c, d] := by
    have ha := a.toNat_lt
    have hb := b.toNat_lt
    have hc := c.toNat_lt
    have hd := d.toNat_lt
    simp only [littleBytes, ofLittleBytes, BitVec.toNat_ofNat, List.cons.injEq, and_true,
      ← UInt8.toNat_inj, UInt8.toNat_ofNat']
    omega
  cases o <;> simp [bytes, word, little]

@[simp] theorem words_bytes_append (o : ByteOrder) (w : BitVec 32) (rest : List UInt8) :
    words o (o.bytes w ++ rest) = w :: words o rest := by
  cases o <;> simp [bytes, littleBytes, words, word, ofLittleBytes_of_toNat]

/-- Words are read back from their bytes, whatever follows that is no whole word. -/
theorem words_allBytes (o : ByteOrder) (ws : List (BitVec 32)) : words o (o.allBytes ws) = ws := by
  induction ws with
  | nil => rfl
  | cons w ws ih => simpa [allBytes] using ih

@[simp] theorem length_allBytes (o : ByteOrder) (ws : List (BitVec 32)) :
    (o.allBytes ws).length = 4 * ws.length := by
  induction ws with
  | nil => rfl
  | cons w ws ih =>
    simp only [allBytes, List.flatMap_cons, List.length_append, length_bytes, List.length_cons] at ih ⊢
    omega

end ByteOrder

end Seismogram
