/-
# Texts and their words

Bytes are read as the one text, if there is any, that they are the bytes of
(`decode?_eq_some_iff`).  The words of a text are told without a reader: blanks stand before,
between and after words, and a word goes on to the next blank or to the end (`HasWords`).  They
are the words that are found (`hasWords_iff`).
-/
import Seismogram.Proofs.Text.Columns
import Seismogram.Text.Utf8

namespace Seismogram.Text

/-! ### Bytes of a text -/

section Bytes

variable {bytes : List UInt8} {c : Char} {text : List Char}

/-- A character is read from the bytes that it has. -/
lemma leadingChar?_eq_some_iff :
    leadingChar? bytes = some c ↔ ∃ rest, bytes = String.utf8EncodeChar c ++ rest := by
  constructor
  · intro h
    obtain ⟨l, hl⟩ := ByteArray.exists_of_utf8DecodeChar?_eq_some h
    have hfirst : bytes.take 4 = String.utf8EncodeChar c ++ l.data.toList := by
      simpa using congrArg (fun b => b.data.toList) hl
    refine ⟨l.data.toList ++ bytes.drop 4, ?_⟩
    rw [← List.append_assoc, ← hfirst, List.take_append_drop]
  · rintro ⟨rest, rfl⟩
    exact leadingChar?_utf8EncodeChar_append c rest

lemma utf8_of_decodeAfter? {skip : ℕ} (h : decodeAfter? skip bytes = some text) :
    utf8 text = bytes.drop skip := by
  induction bytes generalizing skip text with
  | nil =>
      obtain rfl : [] = text := Option.some.inj h
      rw [List.drop_nil, utf8_nil]
  | cons b bs ih =>
      cases skip with
      | succ skip => exact ih h
      | zero =>
          rw [decodeAfter?] at h
          split at h
          · rename_i c hlead
            obtain ⟨later, hlater, rfl⟩ := Option.map_eq_some_iff.1 h
            obtain ⟨rest, hrest⟩ := leadingChar?_eq_some_iff.1 hlead
            obtain ⟨first, more, hc, hlen⟩ := utf8EncodeChar_eq_cons c
            rw [hc, List.cons_append] at hrest
            obtain ⟨rfl, rfl⟩ := List.cons.inj hrest
            rw [utf8_cons, ih hlater, hc, List.drop_left' hlen]
            rfl
          · exact absurd h (by simp)

/-- Bytes are read as a text if they are the bytes of this text. -/
lemma decode?_eq_some_iff : decode? bytes = some text ↔ utf8 text = bytes := by
  constructor
  · exact utf8_of_decodeAfter?
  · rintro rfl
    exact decode?_utf8 text

/-- The bytes of a character after the first are past all of ASCII. -/
lemma high_of_mem_tail {b : UInt8} (hb : b ∈ (String.utf8EncodeChar c).tail) : 0x80 ≤ b := by
  have hpos := c.utf8Size_pos
  have hfour := c.utf8Size_le_four
  obtain hone | htwo | hthree | hlong : c.utf8Size = 1 ∨ c.utf8Size = 2 ∨ c.utf8Size = 3 ∨
      c.utf8Size = 4 := by omega
  · rw [String.utf8EncodeChar_eq_singleton hone] at hb
    exact absurd hb (by simp)
  · rw [String.utf8EncodeChar_eq_cons_cons htwo, List.tail_cons, List.mem_singleton] at hb
    rw [hb]
    exact UInt8.right_le_or
  · rw [String.utf8EncodeChar_eq_cons_cons_cons hthree, List.tail_cons, List.mem_cons,
      List.mem_singleton] at hb
    rcases hb with rfl | rfl <;> exact UInt8.right_le_or
  · rw [String.utf8EncodeChar_eq_cons_cons_cons_cons hlong, List.tail_cons, List.mem_cons,
      List.mem_cons, List.mem_singleton] at hb
    rcases hb with rfl | rfl | rfl <;> exact UInt8.right_le_or

/-- No two texts have the same bytes. -/
lemma utf8_injective : Function.Injective utf8 := by
  intro text other heq
  have hread := decode?_utf8 text
  rw [heq, decode?_utf8] at hread
  exact (Option.some.inj hread).symm

end Bytes

/-! ### Words of a text -/

/-- The words of a text, in order. -/
inductive HasWords : List Char → List (List Char) → Prop
  /-- There is nothing in an empty text. -/
  | nil : HasWords [] []
  /-- A blank has no part in a word. -/
  | blank {c : Char} {rest : List Char} {found : List (List Char)} (hc : isBlank c = true)
      (hrest : HasWords rest found) : HasWords (c :: rest) found
  /-- A word ends before a blank or where the text ends. -/
  | word {word rest : List Char} {found : List (List Char)} (hword : IsWord word)
      (hnext : ∀ c ∈ rest.head?, isBlank c = true) (hrest : HasWords rest found) :
      HasWords (word ++ rest) (word :: found)

section Words

variable {begun word rest text : List Char} {found : List (List Char)}

/-- A word that was begun ends before a blank or where the text ends. -/
lemma wordsFrom_of_ne_nil (hbegun : begun ≠ []) (hnext : ∀ c ∈ rest.head?, isBlank c = true) :
    wordsFrom begun rest = begun.reverse :: words rest := by
  have hmore : begun.isEmpty = false := List.isEmpty_eq_false_iff.2 hbegun
  cases rest with
  | nil => simp [wordsFrom, words, hmore]
  | cons c cs =>
      have hc : isBlank c = true := hnext c rfl
      rw [wordsFrom, if_pos hc, hmore, if_neg Bool.false_ne_true, words_cons_of_isBlank hc, words]

lemma words_append (hword : IsWord word) (hnext : ∀ c ∈ rest.head?, isBlank c = true) :
    words (word ++ rest) = word :: words rest := by
  have hbegun : word.reverse ≠ [] := by simpa using hword.ne_nil
  rw [words, wordsFrom_append hword.inside, List.append_nil, wordsFrom_of_ne_nil hbegun hnext,
    List.reverse_reverse]

lemma hasWords_wordsFrom (hbegun : ∀ c ∈ begun, isBlank c = false) :
    HasWords (begun.reverse ++ text) (wordsFrom begun text) := by
  -- a word that was begun is an argument of the induction; it ends at the first blank
  induction text generalizing begun with
  | nil =>
      rw [wordsFrom]
      split
      · rename_i hnone
        rw [List.isEmpty_iff.1 hnone]
        exact .nil
      · rename_i hmore
        exact .word ⟨by simpa using hmore, by simpa using hbegun⟩ (by simp) .nil
  | cons c cs ih =>
      rw [wordsFrom]
      split
      · rename_i hc
        have hlater : HasWords (c :: cs) (wordsFrom [] cs) := .blank hc (ih (List.forall_mem_nil _))
        split
        · rename_i hnone
          rw [List.isEmpty_iff.1 hnone]
          exact hlater
        · rename_i hmore
          exact .word ⟨by simpa using hmore, by simpa using hbegun⟩ (by simpa using hc) hlater
      · rename_i hc
        have hmore : ∀ d ∈ c :: begun, isBlank d = false := by
          simpa [hc] using hbegun
        simpa using ih hmore

/-- The words that are found are those of the text. -/
lemma hasWords_iff : HasWords text found ↔ words text = found := by
  constructor
  · intro h
    induction h with
    | nil => rfl
    | blank hc _ ih => rw [words_cons_of_isBlank hc, ih]
    | word hword hnext _ ih => rw [words_append hword hnext, ih]
  · rintro rfl
    exact hasWords_wordsFrom (List.forall_mem_nil _)

/-- A character is in a word unless it is a blank. -/
lemma HasWords.mem {c : Char} (hfound : HasWords text found) (hc : c ∈ text) :
    isBlank c = true ∨ ∃ word ∈ found, c ∈ word := by
  induction hfound with
  | nil => exact absurd hc List.not_mem_nil
  | blank hblank _ ih =>
      rcases List.mem_cons.1 hc with rfl | hc
      · exact .inl hblank
      · exact ih hc
  | word _ _ _ ih =>
      rcases List.mem_append.1 hc with hc | hc
      · exact .inr ⟨_, List.mem_cons_self, hc⟩
      · refine (ih hc).imp_right ?_
        rintro ⟨other, hother, hmem⟩
        exact ⟨other, List.mem_cons_of_mem _ hother, hmem⟩

end Words

/-! ### Blanks between words and at the end -/

section Blanks

variable {begun text rest : List Char} {bytes : List UInt8} {c : Char}

lemma wordsFrom_append_cons (hc : isBlank c = true) :
    wordsFrom begun (text ++ c :: rest) = wordsFrom begun text ++ words rest := by
  induction text generalizing begun with
  | nil =>
      rw [List.nil_append, wordsFrom.eq_2, if_pos hc, wordsFrom.eq_1, words]
      split
      · rfl
      · rfl
  | cons d ds ih =>
      rw [List.cons_append, wordsFrom.eq_2, wordsFrom.eq_2]
      split
      · split
        · exact ih
        · rw [ih, List.cons_append]
      · exact ih

/-- A text has the words before a blank and those after it. -/
lemma words_append_cons (text rest : List Char) (hc : isBlank c = true) :
    words (text ++ c :: rest) = words text ++ words rest :=
  wordsFrom_append_cons hc

/-- No word is in the blanks at the end. -/
lemma words_append_replicate (text : List Char) (k : ℕ) :
    words (text ++ List.replicate k ' ') = words text := by
  induction k with
  | zero => rw [List.replicate_zero, List.append_nil]
  | succ k ih =>
      rw [List.replicate_succ', ← List.append_assoc, words_append_cons _ [] (by decide), ih]
      exact List.append_nil _

/-- No character but the blank ends with the byte of a blank: the last byte of several is past
all of ASCII. -/
lemma eq_of_getLast?_utf8EncodeChar (h : (String.utf8EncodeChar c).getLast? = some 0x20) :
    c = ' ' := by
  obtain ⟨b, bs, hbytes, -⟩ := utf8EncodeChar_eq_cons c
  cases bs with
  | nil =>
      rw [hbytes, List.getLast?_singleton, Option.some.injEq] at h
      have hsame : leadingChar? [0x20] = some c := by
        rw [← h, ← hbytes, ← List.append_nil (String.utf8EncodeChar c)]
        exact leadingChar?_utf8EncodeChar_append c []
      exact Option.some.inj (hsame.symm.trans (leadingChar?_utf8EncodeChar_append ' ' []))
  | cons second more =>
      rw [hbytes, List.getLast?_cons_cons] at h
      have hmem : (0x20 : UInt8) ∈ (String.utf8EncodeChar c).tail := by
        rw [hbytes, List.tail_cons]
        exact List.mem_of_getLast? h
      exact absurd (high_of_mem_tail hmem) (by decide)

/-- The blanks at the end of bytes are blanks at the end of their text. -/
lemma exists_of_utf8_append_replicate (k : ℕ) (h : utf8 text = bytes ++ List.replicate k 0x20) :
    ∃ kept, text = kept ++ List.replicate k ' ' ∧ utf8 kept = bytes := by
  induction k generalizing text with
  | zero =>
      rw [List.replicate_zero, List.append_nil] at h
      exact ⟨text, by simp, h⟩
  | succ k ih =>
      rw [List.replicate_succ', ← List.append_assoc] at h
      rcases List.eq_nil_or_concat text with rfl | ⟨before, c, rfl⟩
      · exact absurd h (by simp)
      · rw [List.concat_eq_append, utf8_append] at h
        have hlast : c = ' ' := by
          refine eq_of_getLast?_utf8EncodeChar ?_
          have hend := congrArg List.getLast? h
          rw [List.getLast?_append_of_ne_nil _ (by simp [utf8]), List.getLast?_concat] at hend
          simpa using hend
        rw [hlast] at h
        obtain ⟨kept, rfl, hkept⟩ := ih (List.append_cancel_right h)
        refine ⟨kept, ?_, hkept⟩
        rw [hlast, List.concat_eq_append, List.append_assoc, ← List.replicate_succ']

end Blanks

end Seismogram.Text
