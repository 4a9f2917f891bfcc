/-
# Padding that null text does not depend on

Text is padded with blanks or with null bytes.  Both are trimmed off the end, but only blanks
end a word, so null bytes between the sentinels of two slots join them to one word.  A span is
null if it is with blanks for null bytes, and no null byte stands inside its text
(`text?_eq_none_iff_blanked`).  With the same text in every slot, two headers agree on what is
null unless null bytes stand inside the sentinels of one of them alone
(`null_iff_of_paddedAlike`).
-/
import Mathlib.Tactic.Common
import Seismogram.Proofs.Header.TextField
import Seismogram.Proofs.Text.Lossy

namespace Seismogram

open Text

variable {bytes other before after : List UInt8} {b : UInt8}
variable {text kept later : List Char} {c : Char}

/-! ### Padding in bytes -/

/-- A byte that pads text. -/
def IsPaddingByte (b : UInt8) : Prop := b = blankByte ∨ b = 0x00

lemma mem_utf8_iff : b ∈ utf8 text ↔ ∃ c ∈ text, b ∈ String.utf8EncodeChar c := by
  rw [utf8, List.mem_flatMap]

lemma lossy_cons_null (rest : List UInt8) : lossy (0x00 :: rest) = '\x00' :: lossy rest :=
  lossy_utf8_cons '\x00' rest

lemma lossy_cons_blank (rest : List UInt8) : lossy (blankByte :: rest) = ' ' :: lossy rest :=
  lossy_utf8_cons ' ' rest

/-- Padding is read as padding, and nothing else is. -/
lemma padding_lossy_iff :
    (∀ c ∈ lossy bytes, isPadding c = true) ↔ ∀ b ∈ bytes, IsPaddingByte b := by
  constructor
  · intro hpadding b hb
    have hwhole : replacement ∉ lossy bytes := fun hmem => absurd (hpadding _ hmem) (by decide)
    rw [← utf8_lossy hwhole, mem_utf8_iff] at hb
    obtain ⟨c, hc, hb⟩ := hb
    rcases isPadding_iff.1 (hpadding c hc) with rfl | rfl
    · exact .inl (List.mem_singleton.1 hb)
    · exact .inr (List.mem_singleton.1 hb)
  · intro hpadding
    induction bytes with
    | nil => exact List.forall_mem_nil _
    | cons b bs ih =>
        obtain ⟨hb, hbs⟩ := List.forall_mem_cons.1 hpadding
        rcases hb with rfl | rfl
        · rw [lossy_cons_blank]
          exact List.forall_mem_cons.2 ⟨rfl, ih hbs⟩
        · rw [lossy_cons_null]
          exact List.forall_mem_cons.2 ⟨rfl, ih hbs⟩

/-! ### Null bytes inside text -/

/-- A null byte stands before a byte that is no padding. -/
def NullInside (bytes : List UInt8) : Prop :=
  ∃ before after, bytes = before ++ 0x00 :: after ∧ ∃ b ∈ after, ¬IsPaddingByte b

lemma NullInside.mem (h : NullInside bytes) : 0x00 ∈ bytes := by
  obtain ⟨before, after, rfl, -⟩ := h
  exact List.mem_append_right _ List.mem_cons_self

/-- The first null byte stands before it then. -/
lemma nullInside_iff (hbefore : 0x00 ∉ before) :
    NullInside (before ++ 0x00 :: after) ↔ ∃ b ∈ after, ¬IsPaddingByte b := by
  constructor
  · rintro ⟨before', after', heq, b, hb, htext⟩
    refine ⟨b, ?_, htext⟩
    rcases List.append_eq_append_iff.1 heq with ⟨inside, -, hafter⟩ | ⟨inside, rfl, hafter⟩
    · cases inside with
      | nil =>
          rw [(List.cons.inj hafter).2]
          exact hb
      | cons x xs =>
          rw [(List.cons.inj hafter).2]
          exact List.mem_append_right _ (List.mem_cons_of_mem _ hb)
    · cases inside with
      | nil =>
          rw [← (List.cons.inj hafter).2]
          exact hb
      | cons x xs =>
          rw [← (List.cons.inj hafter).1] at hbefore
          exact absurd (List.mem_append_right _ List.mem_cons_self) hbefore
  · exact fun htext => ⟨before, after, rfl, htext⟩

/-- Text is left after the first null character if there is some that is no padding. -/
lemma null_mem_unpadded_append_iff (hkept : '\x00' ∉ kept) :
    '\x00' ∈ unpadded (kept ++ '\x00' :: later) ↔ ¬∀ c ∈ later, isPadding c = true := by
  constructor
  · intro hmem hlater
    rw [unpadded_append kept (List.forall_mem_cons.2 ⟨rfl, hlater⟩)] at hmem
    exact hkept (mem_of_mem_unpadded hmem)
  · intro hlater
    by_contra hmem
    obtain ⟨padding, hpadding, htext⟩ :=
      exists_trimEnd_append isPadding (kept ++ '\x00' :: later)
    -- the padding at the end begins before the null character
    rcases List.append_eq_append_iff.1 htext with ⟨inside, -, rfl⟩ | ⟨inside, hinside, hrest⟩
    · exact hlater fun c hc =>
        hpadding c (List.mem_append_right _ (List.mem_cons_of_mem _ hc))
    · cases inside with
      | nil =>
          rw [List.nil_append] at hrest
          rw [← hrest] at hpadding
          exact hlater fun c hc => hpadding c (List.mem_cons_of_mem _ hc)
      | cons x xs =>
          obtain ⟨rfl, -⟩ := List.cons.inj hrest
          refine hmem ?_
          rw [unpadded, hinside]
          exact List.mem_append_right _ List.mem_cons_self

lemma null_mem_unpadded_iff : '\x00' ∈ unpadded (lossy bytes) ↔ NullInside bytes := by
  by_cases hnull : 0x00 ∈ bytes
  · obtain ⟨before, after, rfl, hbefore⟩ := List.eq_append_cons_of_mem hnull
    rw [lossy_append_ascii (by decide), lossy_cons_null, nullInside_iff hbefore,
      null_mem_unpadded_append_iff (null_notMem_lossy hbefore), padding_lossy_iff]
    simp only [not_forall, exists_prop]
  · exact iff_of_false (fun hmem => null_notMem_lossy hnull (mem_of_mem_unpadded hmem))
      fun hinside => hnull hinside.mem

/-! ### Blanks for null bytes -/

/-- The bytes with blanks for null bytes. -/
def blanked (bytes : List UInt8) : List UInt8 :=
  bytes.map fun b => if b = 0x00 then blankByte else b

/-- The character with a blank for a null character. -/
def blankedChar (c : Char) : Char := if c = '\x00' then ' ' else c

lemma map_blankedChar (hnull : '\x00' ∉ text) : text.map blankedChar = text := by
  refine (List.map_congr_left fun c hc => ?_).trans (List.map_id' text)
  exact if_neg (by rintro rfl; exact hnull hc)

lemma blanked_eq_self (hnull : 0x00 ∉ bytes) : blanked bytes = bytes := by
  refine (List.map_congr_left fun b hb => ?_).trans (List.map_id' bytes)
  exact if_neg (by rintro rfl; exact hnull hb)

/-- Blanks for null bytes are read as blanks for null characters. -/
lemma lossy_blanked (bytes : List UInt8) :
    lossy (blanked bytes) = (lossy bytes).map blankedChar := by
  -- on the length: the bytes after the first null byte are fewer
  induction hn : bytes.length using Nat.strong_induction_on generalizing bytes with
  | _ n ih =>
      by_cases hnull : 0x00 ∈ bytes
      · obtain ⟨before, after, rfl, hbefore⟩ := List.eq_append_cons_of_mem hnull
        have hsplit : blanked (before ++ 0x00 :: after) = before ++ blankByte :: blanked after := by
          rw [blanked, List.map_append, ← blanked, blanked_eq_self hbefore, List.map_cons,
            if_pos rfl, ← blanked]
        have hafter : after.length < n := by
          rw [← hn, List.length_append, List.length_cons]
          omega
        rw [hsplit, lossy_append_ascii (by decide), lossy_append_ascii (by decide),
          lossy_cons_blank, lossy_cons_null, List.map_append, List.map_cons,
          map_blankedChar (null_notMem_lossy hbefore), ih _ hafter after rfl]
        rfl
      · rw [blanked_eq_self hnull, map_blankedChar (null_notMem_lossy hnull)]

lemma unpadded_map_blankedChar (text : List Char) :
    unpadded (text.map blankedChar) = (unpadded text).map blankedChar := by
  have hpadding : isPadding ∘ blankedChar = isPadding := by
    funext c
    by_cases hc : c = '\x00'
    · rw [hc]
      rfl
    · rw [Function.comp_apply, blankedChar, if_neg hc]
  rw [unpadded, unpadded, trimEnd, trimEnd, ← List.map_reverse, List.dropWhile_map, hpadding,
    List.map_reverse]

/-! ### Null text -/

/-- A null character is no blank and in no sentinel. -/
lemma OnlySentinels.null_notMem (h : OnlySentinels text) : '\x00' ∉ text := by
  obtain ⟨-, found, hfound, hall⟩ := h
  intro hmem
  rcases hfound.mem hmem with hblank | ⟨word, hword, hnull⟩
  · exact absurd hblank (by decide)
  · rw [hall word hword] at hnull
    exact absurd hnull (by decide)

lemma onlySentinels_blanked_iff :
    OnlySentinels (unpadded (lossy bytes)) ↔
      OnlySentinels (unpadded (lossy (blanked bytes))) ∧ ¬NullInside bytes := by
  rw [← null_mem_unpadded_iff, lossy_blanked, unpadded_map_blankedChar]
  constructor
  · intro h
    rw [map_blankedChar h.null_notMem]
    exact ⟨h, h.null_notMem⟩
  · rintro ⟨h, hnull⟩
    rwa [map_blankedChar hnull] at h

namespace Header

variable {h k : Header} {span : TextSpan}

/-- What is null with blanks for null bytes is null unless one of them stands inside. -/
lemma text?_eq_none_iff_blanked :
    h.text? span = none ↔
      OnlySentinels (unpadded (lossy (blanked (h.textBytes span)))) ∧
        ¬NullInside (h.textBytes span) := by
  rw [text?_eq_none_iff, rawText, onlySentinels_blanked_iff]

end Header

/-! ### The same text, padded in another way -/

/-- The same text without padding, followed by padding. -/
inductive PaddedAlike : List UInt8 → List UInt8 → Prop
  | mk {text padding padding' : List UInt8} (htext : ∀ b ∈ text, ¬IsPaddingByte b)
      (hpadding : ∀ b ∈ padding, IsPaddingByte b) (hpadding' : ∀ b ∈ padding', IsPaddingByte b) :
      PaddedAlike (text ++ padding) (text ++ padding')

lemma blanked_of_padding (hpadding : ∀ b ∈ bytes, IsPaddingByte b) :
    blanked bytes = List.replicate bytes.length blankByte := by
  refine List.eq_replicate_iff.2 ⟨List.length_map _, fun replaced hreplaced => ?_⟩
  obtain ⟨b, hb, rfl⟩ := List.mem_map.1 hreplaced
  rcases hpadding b hb with rfl | rfl <;> rfl

lemma PaddedAlike.blanked_eq (halike : PaddedAlike bytes other)
    (hlength : bytes.length = other.length) : blanked bytes = blanked other := by
  obtain @⟨text, padding, padding', -, hpadding, hpadding'⟩ := halike
  rw [List.length_append, List.length_append, Nat.add_left_cancel_iff] at hlength
  rw [blanked, blanked, List.map_append, List.map_append, ← blanked, ← blanked, ← blanked,
    blanked_of_padding hpadding, blanked_of_padding hpadding', hlength]

lemma PaddedAlike.symm (halike : PaddedAlike bytes other) : PaddedAlike other bytes := by
  obtain ⟨htext, hpadding, hpadding'⟩ := halike
  exact .mk htext hpadding' hpadding

/-- Null bytes stand at the end of a slot. -/
lemma PaddedAlike.not_nullInside (halike : PaddedAlike bytes other) : ¬NullInside bytes := by
  obtain @⟨text, padding, -, htext, hpadding, -⟩ := halike
  have hnull : 0x00 ∉ text := fun hmem => htext _ hmem (.inr rfl)
  intro hinside
  rcases List.mem_append.1 hinside.mem with hmem | hmem
  · exact hnull hmem
  · obtain ⟨front, later, rfl, hfront⟩ := List.eq_append_cons_of_mem hmem
    have hfirst : 0x00 ∉ text ++ front := by
      rw [List.mem_append, not_or]
      exact ⟨hnull, hfront⟩
    rw [← List.append_assoc, nullInside_iff hfirst] at hinside
    obtain ⟨b, hb, hrest⟩ := hinside
    exact hrest (hpadding b (List.mem_append_right _ (List.mem_cons_of_mem _ hb)))

namespace Header

/-- Every slot of a span holds the same text in two headers, followed by padding. -/
def PaddedAlikeIn (span : TextSpan) (h k : Header) : Prop :=
  ∀ slot : Fin 24, span.first ≤ slot → slot < span.first + span.slots →
    PaddedAlike (h.textBytes (.one slot)) (k.textBytes (.one slot))

variable {h k : Header} {span : TextSpan}

/-- The bytes of a slot are some of those of the span that it belongs to. -/
lemma textBytes_slot (h : Header) (slot : Fin 24) (hfirst : span.first ≤ slot)
    (hlast : slot < span.first + span.slots) :
    h.textBytes (.one slot) = ((h.textBytes span).drop (8 * (slot - span.first))).take 8 := by
  have hone : (TextSpan.one slot).width = min 8 (span.width - 8 * (slot - span.first)) := by
    rw [TextSpan.one, TextSpan.width, TextSpan.width, textSlotWidth]
    dsimp only
    omega
  have hoffset : (TextSpan.one slot).offset = span.offset + 8 * (slot - span.first) := by
    rw [TextSpan.one, TextSpan.offset, TextSpan.offset, textSlotWidth]
    dsimp only
    omega
  rw [textBytes, textBytes, List.drop_take, List.take_take, List.drop_drop, hone, hoffset]

/-- A byte of a span is one of its slots. -/
lemma exists_slot_of_lt {i : ℕ} (hi : i < span.width) :
    ∃ slot : Fin 24, span.first ≤ slot ∧ slot < span.first + span.slots ∧
      ∀ h : Header, (h.textBytes span)[i]? = (h.textBytes (.one slot))[i % 8]? := by
  have hfits := span.fits
  rw [textSlots] at hfits
  rw [TextSpan.width, textSlotWidth] at hi
  have hslot : span.first + i / 8 < 24 := by omega
  have hfirst : span.first ≤ span.first + i / 8 := Nat.le_add_right _ _
  have hlast : span.first + i / 8 < span.first + span.slots := by omega
  refine ⟨⟨span.first + i / 8, hslot⟩, hfirst, hlast, fun h => ?_⟩
  rw [textBytes_slot h ⟨span.first + i / 8, hslot⟩ hfirst hlast,
    List.getElem?_take_of_lt (Nat.mod_lt i (by decide)), List.getElem?_drop,
    Nat.add_sub_cancel_left, Nat.div_add_mod]

lemma blanked_textBytes_eq (halike : PaddedAlikeIn span h k) :
    blanked (h.textBytes span) = blanked (k.textBytes span) := by
  refine List.ext_getElem? fun i => ?_
  by_cases hi : i < span.width
  · obtain ⟨slot, hfirst, hlast, hbyte⟩ := exists_slot_of_lt hi
    have hslot := (halike slot hfirst hlast).blanked_eq (by rw [length_textBytes, length_textBytes])
    have hsame := congrArg (fun bytes : List UInt8 => bytes[i % 8]?) hslot
    simpa only [blanked, List.getElem?_map, hbyte] using hsame
  · rw [List.getElem?_eq_none, List.getElem?_eq_none] <;>
      rw [blanked, List.length_map, length_textBytes] <;> exact Nat.le_of_not_lt hi

lemma PaddedAlikeIn.symm (halike : PaddedAlikeIn span h k) : PaddedAlikeIn span k h :=
  fun slot hfirst hlast => (halike slot hfirst hlast).symm

lemma PaddedAlikeIn.not_nullInside (halike : PaddedAlikeIn span h k) (hslots : span.slots = 1) :
    ¬NullInside (h.textBytes span) := by
  obtain ⟨first, slots, hfits⟩ := span
  obtain rfl : slots = 1 := hslots
  exact (halike ⟨first, hfits⟩ (Nat.le_refl _) (Nat.lt_succ_self _)).not_nullInside

/-- With the same text in every slot, a span is null in both headers or in none, unless it is null
with blanks for null bytes and such bytes stand inside the text of one header alone. -/
theorem null_iff_of_paddedAlike (halike : PaddedAlikeIn span h k) :
    ((h.text? span = none ↔ k.text? span = none) ↔
      (OnlySentinels (unpadded (lossy (blanked (h.textBytes span)))) →
        (NullInside (h.textBytes span) ↔ NullInside (k.textBytes span)))) ∧
    (span.slots = 1 → (h.text? span = none ↔ k.text? span = none)) := by
  have hsame : (h.text? span = none ↔ k.text? span = none) ↔
      (OnlySentinels (unpadded (lossy (blanked (h.textBytes span)))) →
        (NullInside (h.textBytes span) ↔ NullInside (k.textBytes span))) := by
    rw [text?_eq_none_iff_blanked, text?_eq_none_iff_blanked, ← blanked_textBytes_eq halike,
      and_congr_right_iff, not_iff_not]
  refine ⟨hsame, fun hslots => hsame.2 fun _ => ?_⟩
  exact iff_of_false (halike.not_nullInside hslots) (halike.symm.not_nullInside hslots)

/-- A sentinel fills a slot up to two bytes of padding. -/
lemma sentinels_paddedAlike :
    PaddedAlike (utf8 nullWord ++ List.replicate 2 0x00)
      (utf8 nullWord ++ List.replicate 2 blankByte) := by
  refine .mk (fun b hb => ?_) (fun b hb => .inr (List.eq_of_mem_replicate hb))
    fun b hb => .inl (List.eq_of_mem_replicate hb)
  have hall : (utf8 nullWord).all (fun b => b != blankByte && b != 0x00) = true := by decide
  have htext := List.all_eq_true.1 hall b hb
  rw [Bool.and_eq_true, bne_iff_ne, bne_iff_ne] at htext
  exact not_or.2 htext

/-- A sentinel is null with null bytes as it is with blanks. -/
theorem null_of_null_padding :
    (blank.setText TextName.kstnm.span (some "-12345\x00\x00")).text? TextName.kstnm.span =
      none := by
  have halike : PaddedAlikeIn TextName.kstnm.span
      (blank.setText TextName.kstnm.span (some "-12345\x00\x00"))
      (blank.setText TextName.kstnm.span none) := by
    intro slot hfirst hlast
    obtain rfl : slot = 0 := Fin.ext (Nat.lt_one_iff.1 hlast)
    have hnull := textBytes_setText (h := blank) TextName.kstnm.span (some "-12345\x00\x00")
    have hblank := textBytes_setText (h := blank) TextName.kstnm.span none
    rw [show TextSpan.one 0 = TextName.kstnm.span from rfl, hnull, hblank]
    exact sentinels_paddedAlike
  exact ((null_iff_of_paddedAlike halike).2 rfl).2 (text?_setText_none (by decide))

/-- Null bytes between the sentinels of two slots make them text, where blanks make them
null. -/
theorem null_padding_inside :
    ∃ h k : Header, PaddedAlikeIn TextName.kevnm.span h k ∧
      h.text? TextName.kevnm.span = some "-12345\x00\x00-12345" ∧
      k.text? TextName.kevnm.span = none := by
  refine ⟨blank.setText TextName.kevnm.span (some "-12345\x00\x00-12345\x00\x00"),
    blank.setText TextName.kevnm.span (some "-12345  -12345"), ?_, ?_, ?_⟩
  · intro slot hfirst hlast
    rw [textBytes_slot _ slot hfirst hlast, textBytes_slot _ slot hfirst hlast, textBytes_setText,
      textBytes_setText]
    obtain rfl | rfl : slot = 1 ∨ slot = 2 := by
      have hfirst' : 1 ≤ (slot : ℕ) := hfirst
      have hlast' : (slot : ℕ) < 3 := hlast
      omega
    · exact sentinels_paddedAlike
    · exact sentinels_paddedAlike
  · rw [text?_setText]
    decide
  · rw [text?_setText]
    decide

end Header

end Seismogram
