/-
# Other line ends and fewer blanks

A line may lose blanks at its end and may end with a carriage return before its line feed
(`Rewritten`).  Neither is seen by the reader: returns are taken off before anything is read, no
word of a line of numbers is in the blanks at its end (`HasTokens.trimmed`), and a line of text is
filled up with the blanks that it lost (`textByte_of_trimmed`).  So a file is read as before when
any of its lines are rewritten (`decode_relined`).
-/
import Seismogram.Proofs.Layout.Grammar

namespace Seismogram.Alphanumeric

open Seismogram.Number

/-- A line from which blanks at the end were taken. -/
def Trimmed (line kept : List UInt8) : Prop :=
  ∃ k, line = kept ++ List.replicate k blankByte

/-- A line that stands for another: blanks at the end were taken, and a carriage return may have
been put before the line feed. -/
def Rewritten (line new : List UInt8) : Prop :=
  ∃ kept, Trimmed line kept ∧ (new = kept ∨ new = kept ++ [carriageReturn])

section Trimmed

variable {α : Type} {block : NumberBlock} {read? : List Char → Option α} {count : ℕ}
  {line kept new data : List UInt8} {lines keptLines news : List (List UInt8)}
  {tokens : List (List Char)} {h : Header}

/-! ### Lines that were trimmed -/

lemma Trimmed.subset (h : Trimmed line kept) : kept ⊆ line := by
  obtain ⟨k, rfl⟩ := h
  exact List.subset_append_left _ _

lemma Trimmed.length_le (h : Trimmed line kept) : kept.length ≤ line.length := by
  obtain ⟨k, rfl⟩ := h
  rw [List.length_append]
  exact Nat.le_add_right _ _

/-- Bytes past the end of a line are blanks, whether or not they were taken. -/
lemma Trimmed.getD_eq {row : List UInt8} (h : Trimmed row kept) (i : ℕ) :
    (kept[i]?).getD blankByte = (row[i]?).getD blankByte := by
  obtain ⟨k, rfl⟩ := h
  rcases Nat.lt_or_ge i kept.length with hlt | hge
  · rw [List.getElem?_append_left hlt]
  · rw [List.getElem?_append_right hge, List.getElem?_eq_none hge, List.getElem?_replicate]
    split
    · rfl
    · rfl

/-- Texts that were trimmed have the same words. -/
lemma exists_texts_of_trimmed {texts : List (List Char)}
    (hkept : List.Forall₂ Trimmed (texts.map Text.utf8) keptLines) :
    ∃ shorter : List (List Char), shorter.map Text.utf8 = keptLines ∧
      shorter.flatMap Text.words = texts.flatMap Text.words := by
  induction texts generalizing keptLines with
  | nil =>
      obtain rfl := List.forall₂_nil_left_iff.1 hkept
      exact ⟨[], rfl, rfl⟩
  | cons text texts ih =>
      rw [List.map_cons] at hkept
      obtain ⟨_, later, ⟨k, hk⟩, hlater, rfl⟩ := List.forall₂_cons_left_iff.1 hkept
      obtain ⟨first, rfl, rfl⟩ := Text.exists_of_utf8_append_replicate k hk
      obtain ⟨shorter, rfl, hwords⟩ := ih hlater
      refine ⟨first :: shorter, rfl, ?_⟩
      rw [List.flatMap_cons, List.flatMap_cons, hwords, Text.words_append_replicate]

/-- Lines that were trimmed have the same words. -/
lemma HasTokens.trimmed (htokens : HasTokens lines tokens)
    (hkept : List.Forall₂ Trimmed lines keptLines) : HasTokens keptLines tokens := by
  obtain ⟨texts, rfl, rfl⟩ := hasTokens_iff.1 htokens
  obtain ⟨shorter, hlines, hwords⟩ := exists_texts_of_trimmed hkept
  exact hasTokens_iff.2 ⟨shorter, hlines, hwords⟩

lemma readNumbers_of_trimmed {v : Vector α count}
    (hread : readNumbers block read? count lines = .ok v)
    (hkept : List.Forall₂ Trimmed lines keptLines) :
    readNumbers block read? count keptLines = .ok v := by
  obtain ⟨tokens, htokens, hnumbers⟩ := readNumbers_eq_ok_iff_areNumbers.1 hread
  exact readNumbers_eq_ok_iff_areNumbers.2 ⟨tokens, htokens.trimmed hkept, hnumbers⟩

lemma textByte_of_trimmed (hkept : List.Forall₂ Trimmed lines keptLines) (i : ℕ) :
    textByte keptLines i = textByte lines i := by
  have hlength := hkept.length_eq
  rw [textByte, textByte]
  rcases Nat.lt_or_ge (i / textLineWidth) lines.length with hlt | hge
  · have hlt' : i / textLineWidth < keptLines.length := by omega
    rw [List.getElem?_eq_getElem hlt, List.getElem?_eq_getElem hlt']
    exact (hkept.get hlt hlt').getD_eq _
  · have hge' : keptLines.length ≤ i / textLineWidth := by omega
    rw [List.getElem?_eq_none hge, List.getElem?_eq_none hge']

lemma readText_of_trimmed {text : Vector UInt8 192} (hread : readText lines = .ok text)
    (hkept : List.Forall₂ Trimmed lines keptLines) : readText keptLines = .ok text := by
  obtain ⟨hnarrow, rfl⟩ := readText_eq_ok_iff.1 hread
  refine readText_eq_ok_iff.2 ⟨?_, ?_⟩
  · intro kept hmem
    obtain ⟨line, hline, htrimmed⟩ := exists_mem_of_forall₂ hkept hmem
    exact Nat.le_trans htrimmed.length_le (hnarrow line hline)
  · simp only [textByte_of_trimmed hkept]

lemma readHeader_of_trimmed (hread : readHeader lines = .ok h)
    (hkept : List.Forall₂ Trimmed lines keptLines) : readHeader keptLines = .ok h := by
  rw [readHeader_eq_ok_iff] at hread ⊢
  obtain ⟨henough, hreals, hintegers, htext⟩ := hread
  refine ⟨hkept.length_eq ▸ henough, readNumbers_of_trimmed hreals ?_,
    readNumbers_of_trimmed hintegers ?_, readText_of_trimmed htext ?_⟩
  · exact List.forall₂_take _ hkept
  · exact List.forall₂_take _ (List.forall₂_drop _ hkept)
  · exact List.forall₂_take _ (List.forall₂_drop _ hkept)

/-- A file is read by its lines, whether or not they were trimmed. -/
lemma decode_of_trimmed {headerOnly : Bool} {answer : Header × Option (List Single)}
    (hread : decode data headerOnly = .ok answer)
    (hkept : List.Forall₂ Trimmed (linesOf data) (linesOf new)) :
    decode new headerOnly = .ok answer := by
  obtain ⟨h, found⟩ := answer
  cases headerOnly with
  | true =>
      obtain ⟨hheader, rfl⟩ := decode_headerOnly_eq_ok_iff.1 hread
      exact decode_headerOnly_eq_ok_iff.2 ⟨readHeader_of_trimmed hheader hkept, rfl⟩
  | false =>
      obtain ⟨hheader, n, v, hcount, hsamples, rfl⟩ := decode_eq_ok_iff.1 hread
      refine decode_eq_ok_iff.2 ⟨readHeader_of_trimmed hheader hkept, n, v, hcount, ?_, rfl⟩
      exact readNumbers_of_trimmed hsamples (List.forall₂_drop _ hkept)

/-! ### Lines that were rewritten -/

/-- Without its carriage return, a line that was rewritten is a line that was trimmed. -/
lemma Rewritten.trimmed (hnew : Rewritten line new) (hplain : carriageReturn ∉ line) :
    Trimmed line (withoutReturn new) := by
  obtain ⟨kept, hkept, rfl | rfl⟩ := hnew
  · rw [withoutReturn_of_ne]
    · exact hkept
    · intro hlast
      exact hplain (hkept.subset (List.mem_of_getLast? hlast))
  · rw [withoutReturn, List.getLast?_concat, if_pos rfl, List.dropLast_concat]
    exact hkept

lemma Rewritten.lineFeed_notMem (hnew : Rewritten line new) (hline : lineFeed ∉ line) :
    lineFeed ∉ new := by
  obtain ⟨kept, hkept, rfl | rfl⟩ := hnew
  · exact fun hfeed => hline (hkept.subset hfeed)
  · intro hfeed
    rcases List.mem_append.1 hfeed with hfeed | hfeed
    · exact hline (hkept.subset hfeed)
    · exact absurd (List.mem_singleton.1 hfeed) (by decide)

/-- A file without carriage returns is read as before when any of its lines end with one and any
blanks at the end of its lines are taken.  Where the last line had no line feed it gets one. -/
theorem decode_relined {headerOnly : Bool} {answer : Header × Option (List Single)}
    (hplain : carriageReturn ∉ data) (hlines : HasLines data lines)
    (hnews : List.Forall₂ Rewritten lines news) (hread : decode data headerOnly = .ok answer) :
    decode (joinLines news) headerOnly = .ok answer := by
  obtain rfl := hasLines_iff.1 hlines
  have hbytes : ∀ line ∈ linesOf data, carriageReturn ∉ line ∧ lineFeed ∉ line := by
    intro line hline
    constructor
    · exact fun hreturn => hplain (mem_of_mem_linesOf hline hreturn).1
    · exact fun hfeed => (mem_of_mem_linesOf hline hfeed).2 rfl
  have hfeed : ∀ new ∈ news, lineFeed ∉ new := by
    intro new hnew
    obtain ⟨line, hline, hrewritten⟩ := exists_mem_of_forall₂ hnews hnew
    exact hrewritten.lineFeed_notMem (hbytes line hline).2
  refine decode_of_trimmed hread ?_
  rw [linesOf_joinLines hfeed, List.forall₂_map_right_iff]
  refine ((List.forall₂_and_left _ _).2 ⟨hbytes, hnews⟩).imp ?_
  rintro line new ⟨⟨hreturn, -⟩, hrewritten⟩
  exact hrewritten.trimmed hreturn

end Trimmed

/-- The lines of the file with one sample, without their blanks at the end and with carriage
returns. -/
def oneSampleRewritten : List (List UInt8) :=
  oneSampleTexts.map fun text => Text.utf8 text.dropLast ++ [carriageReturn]

theorem decode_relined_oneSample :
    ∃ answer, decode oneSampleFile false = .ok answer ∧
      decode (joinLines oneSampleRewritten) false = .ok answer := by
  have hplain : carriageReturn ∉ oneSampleFile := by decide
  have hblank : ∀ text ∈ oneSampleTexts, text = text.dropLast ++ [' '] := by decide
  have hnews : List.Forall₂ Rewritten (oneSampleTexts.map Text.utf8) oneSampleRewritten := by
    rw [oneSampleRewritten, List.forall₂_map_left_iff, List.forall₂_map_right_iff,
      List.forall₂_same]
    intro text htext
    refine ⟨Text.utf8 text.dropLast, ⟨1, ?_⟩, Or.inr rfl⟩
    show Text.utf8 text = Text.utf8 text.dropLast ++ Text.utf8 [' ']
    rw [← Text.utf8_append, ← hblank text htext]
  obtain ⟨answer, hread⟩ : ∃ answer, decode oneSampleFile false = .ok answer := by
    rw [exists_decode_iff, hasLines_iff.1 hasLines_oneSample]
    exact ⟨_, _, isHeader_oneSample, fun _ => ⟨_, isSampled_oneSample⟩⟩
  exact ⟨answer, hread, decode_relined hplain hasLines_oneSample hnews hread⟩

end Seismogram.Alphanumeric
