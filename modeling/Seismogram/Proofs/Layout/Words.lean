/-
# Words at offsets

Reading looks at words by their offset and writing puts bytes of words one after the other.
The two meet in three facts:

* `bytes_wordAt`: the bytes of the word at an offset are the four bytes there;
* `allBytes_wordAt`: the bytes of all words from an offset on are the bytes there;
* `wordAt_allBytes`: a word that was written is the word at its offset.

The last part names single bytes by the word that they lie in.
-/
import Mathlib.Tactic.Common
import Seismogram.Layout.ByteOrder

namespace Seismogram.ByteOrder

variable (o : ByteOrder) {data : List UInt8} {offset : Nat}

/-! ### The other order -/

/-- The order that is not this one. -/
def other : ByteOrder → ByteOrder
  | little => big
  | big => little

lemma eq_or_eq_other (p : ByteOrder) : p = o ∨ p = o.other := by
  cases o <;> cases p <;> simp [other]

/-! ### One word -/

lemma exists_drop_eq (h : offset + 4 ≤ data.length) :
    ∃ a b c d rest, data.drop offset = a :: b :: c :: d :: rest := by
  have hlen : 4 ≤ (data.drop offset).length := by
    rw [List.length_drop]
    omega
  match hd : data.drop offset, hlen with
  | a :: b :: c :: d :: rest, _ => exact ⟨a, b, c, d, rest, rfl⟩

lemma wordAt_of_drop {a b c d : UInt8} {rest : List UInt8}
    (h : data.drop offset = a :: b :: c :: d :: rest) : o.wordAt data offset = o.word a b c d := by
  rw [wordAt, h]

/-- The bytes of the word at an offset are the four bytes there. -/
lemma bytes_wordAt (h : offset + 4 ≤ data.length) :
    o.bytes (o.wordAt data offset) = (data.drop offset).take 4 := by
  obtain ⟨a, b, c, d, rest, hd⟩ := exists_drop_eq h
  rw [o.wordAt_of_drop hd, bytes_word, hd]
  rfl

/-- A word is found where its bytes begin. -/
lemma wordAt_append_bytes (front rest : List UInt8) (w : BitVec 32) :
    o.wordAt (front ++ (o.bytes w ++ rest)) front.length = w := by
  have hb : words o (o.bytes w ++ rest) = w :: words o rest := words_bytes_append o w rest
  have hlen : 0 + 4 ≤ (o.bytes w ++ rest).length := by simp
  obtain ⟨a, b, c, d, tail, hd⟩ := exists_drop_eq hlen
  rw [List.drop_zero] at hd
  rw [o.wordAt_of_drop (by rw [List.drop_left, hd])]
  rw [hd, words] at hb
  exact (List.cons.inj hb).1

/-- A beginning of a file has the same words as the file. -/
lemma wordAt_take {n : Nat} (h : offset + 4 ≤ n) :
    o.wordAt (data.take n) offset = o.wordAt data offset := by
  obtain ⟨m, rfl⟩ : ∃ m, n = offset + (m + 4) := ⟨n - offset - 4, by omega⟩
  have hd : (data.take (offset + (m + 4))).drop offset = (data.drop offset).take (m + 4) := by
    rw [List.drop_take]
    congr 1
    omega
  rw [wordAt, wordAt, hd]
  rcases data.drop offset with _ | ⟨a, _ | ⟨b, _ | ⟨c, _ | ⟨d, rest⟩⟩⟩⟩ <;> simp

/-! ### Consecutive words -/

lemma allBytes_append (ws vs : List (BitVec 32)) :
    o.allBytes (ws ++ vs) = o.allBytes ws ++ o.allBytes vs :=
  List.flatMap_append

lemma allBytes_cons (w : BitVec 32) (ws : List (BitVec 32)) :
    o.allBytes (w :: ws) = o.bytes w ++ o.allBytes ws :=
  List.flatMap_cons

/-- The bytes of the words from an offset on are the bytes from there on. -/
lemma allBytes_wordAt (offset n : Nat) (h : offset + 4 * n ≤ data.length) :
    o.allBytes (List.ofFn fun i : Fin n => o.wordAt data (offset + 4 * i.val))
      = (data.drop offset).take (4 * n) := by
  induction n generalizing offset with
  | zero => simp [allBytes]
  | succ n ih =>
      have hrest := ih (offset + 4) (by omega)
      have hshift : (fun i : Fin n => o.wordAt data (offset + 4 * i.succ.val))
          = fun i : Fin n => o.wordAt data (offset + 4 + 4 * i.val) := by
        funext i
        congr 1
        simp only [Fin.val_succ]
        omega
      rw [List.ofFn_succ, allBytes_cons, hshift, hrest]
      simp only [Fin.val_zero, Nat.mul_zero, Nat.add_zero]
      rw [o.bytes_wordAt (by omega), ← List.drop_drop, ← List.take_add]
      congr 1
      omega

/-- The bytes of whole words that were read are those that they were read from. -/
lemma allBytes_words (n : Nat) (h : 4 * n ≤ data.length) :
    o.allBytes (o.words (data.take (4 * n))) = data.take (4 * n) := by
  have hb := o.allBytes_wordAt 0 n (by rwa [Nat.zero_add])
  rw [List.drop_zero] at hb
  rw [← hb, words_allBytes]

/-- A word that was written is the word at its offset. -/
lemma wordAt_allBytes (front rest : List UInt8) (ws : List (BitVec 32)) {i : Nat}
    (h : i < ws.length) :
    o.wordAt (front ++ (o.allBytes ws ++ rest)) (front.length + 4 * i) = ws[i] := by
  have hsplit : o.allBytes ws
      = o.allBytes (ws.take i) ++ (o.bytes ws[i] ++ o.allBytes (ws.drop (i + 1))) := by
    rw [← allBytes_cons, ← List.drop_eq_getElem_cons h, ← allBytes_append, List.take_append_drop]
  have hfront : front.length + 4 * i = (front ++ o.allBytes (ws.take i)).length := by
    rw [List.length_append, length_allBytes, List.length_take, Nat.min_eq_left (Nat.le_of_lt h)]
  rw [hsplit, hfront]
  simpa only [List.append_assoc] using
    o.wordAt_append_bytes (front ++ o.allBytes (ws.take i)) (o.allBytes (ws.drop (i + 1)) ++ rest) ws[i]

/-! ### Single bytes -/

/-- The byte with number `i` lies in the word at an offset. -/
def InWord (offset i : Nat) : Prop := offset ≤ i ∧ i < offset + 4

instance (offset i : Nat) : Decidable (InWord offset i) :=
  inferInstanceAs (Decidable (_ ∧ _))

/-- Consecutive words share no byte. -/
lemma eq_of_inWord (offset : Nat) {i n : Nat} {a b : Fin n}
    (ha : InWord (offset + 4 * a.val) i) (hb : InWord (offset + 4 * b.val) i) : a = b := by
  obtain ⟨hlow, hhigh⟩ := ha
  obtain ⟨hlow', hhigh'⟩ := hb
  ext
  omega

/-- A byte of consecutive words is a byte of the word that it lies in. -/
lemma getElem?_allBytes (ws : List (BitVec 32)) (i : Nat) :
    (o.allBytes ws)[i]? = ws[i / 4]?.bind fun w => (o.bytes w)[i % 4]? := by
  induction ws generalizing i with
  | nil => rfl
  | cons w ws ih =>
      rw [allBytes_cons]
      by_cases hi : i < 4
      · rw [List.getElem?_append_left (by simpa using hi), Nat.div_eq_of_lt hi, Nat.mod_eq_of_lt hi]
        rfl
      · obtain ⟨j, rfl⟩ : ∃ j, i = j + 4 := ⟨i - 4, by omega⟩
        rw [List.getElem?_append_right (by simp), length_bytes, Nat.add_sub_cancel, ih,
          Nat.add_mod_right, Nat.add_div_right j (by omega)]
        rfl

end Seismogram.ByteOrder
