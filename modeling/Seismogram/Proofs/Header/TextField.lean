/-
# Text stored and read back

A text is stored up to the last boundary of its characters that the span has room for
(`Fitted`), and blanks fill up the span.  Nothing is lost but what had no room: the span is read
as the same characters and blanks, and as a value without the blanks and null characters at
the end (`Unpadded`).  The value is nothing if words are left that are all the sentinel, or no
words at all but other white space (`OnlySentinels`).
-/
import Seismogram.Proofs.Header.Stored
import Seismogram.Proofs.Text.Words

namespace Seismogram

open Text

/-! ### Boundaries of characters -/

section Boundaries

variable {s : String} {p : String.Pos.Raw}

lemma utf8ByteSize_ofList (text : List Char) :
    (String.ofList text).utf8ByteSize = (utf8 text).length := by
  rw [← String.size_toByteArray, String.toByteArray_ofList, List.utf8Encode, List.size_toByteArray,
    utf8]

/-- A boundary is where some of the first characters end. -/
lemma isValid_iff_exists_kept :
    p.IsValid s ↔ ∃ kept, kept <+: s.toList ∧ (utf8 kept).length = p.byteIdx := by
  rw [String.Pos.Raw.isValid_iff_exists_append]
  constructor
  · rintro ⟨before, after, rfl, rfl⟩
    refine ⟨before.toList, ⟨after.toList, String.toList_append.symm⟩, ?_⟩
    rw [← utf8ByteSize_ofList, String.ofList_toList, String.byteIdx_rawEndPos]
  · rintro ⟨kept, ⟨rest, hrest⟩, hp⟩
    refine ⟨String.ofList kept, String.ofList rest, ?_, String.Pos.Raw.ext ?_⟩
    · rw [← String.ofList_append, hrest, String.ofList_toList]
    · rw [String.byteIdx_rawEndPos, utf8ByteSize_ofList, hp]

end Boundaries

/-- The beginning of a text up to the last boundary within the first `width` bytes. -/
structure Fitted (width : ℕ) (s : String) (kept : List Char) : Prop where
  begins : kept <+: s.toList
  fits : (utf8 kept).length ≤ width
  longest : ∀ p : String.Pos.Raw, p.IsValid s → p.byteIdx ≤ width → p.byteIdx ≤ (utf8 kept).length

section Fitted

variable {width : ℕ} {text kept : List Char} {s : String}

lemma fitting_begins (width : ℕ) (text : List Char) : fitting width text <+: text := by
  induction text generalizing width with
  | nil => exact List.nil_prefix
  | cons c cs ih =>
      rw [fitting]
      split
      · exact List.cons_prefix_cons.2 ⟨rfl, ih _⟩
      · exact List.nil_prefix

/-- No beginning that fits is longer. -/
lemma length_utf8_le_fitting (hkept : kept <+: text) (hfits : (utf8 kept).length ≤ width) :
    (utf8 kept).length ≤ (utf8 (fitting width text)).length := by
  induction text generalizing width kept with
  | nil => rw [List.prefix_nil.1 hkept, fitting]
  | cons c cs ih =>
      rcases List.prefix_cons_iff.1 hkept with rfl | ⟨later, rfl, hlater⟩
      · exact Nat.zero_le _
      · rw [utf8_cons, List.length_append, String.length_utf8EncodeChar] at hfits ⊢
        have hroom : (utf8 later).length ≤ width - c.utf8Size := by omega
        have hrest := ih hlater hroom
        rw [fitting, if_pos (by omega), utf8_cons, List.length_append,
          String.length_utf8EncodeChar]
        omega

lemma fitted_fitting (width : ℕ) (s : String) : Fitted width s (fitting width s.toList) where
  begins := fitting_begins width s.toList
  fits := length_utf8_fitting_le width s.toList
  longest p hp hwidth := by
    obtain ⟨kept, hkept, hlength⟩ := isValid_iff_exists_kept.1 hp
    rw [← hlength] at hwidth ⊢
    exact length_utf8_le_fitting hkept hwidth

lemma eq_of_prefix_of_length_utf8_le {other : List Char} (hkept : kept <+: other)
    (hlength : (utf8 other).length ≤ (utf8 kept).length) : kept = other := by
  obtain ⟨rest, rfl⟩ := hkept
  cases rest with
  | nil => rw [List.append_nil]
  | cons c cs =>
      have hpos := c.utf8Size_pos
      rw [utf8_append, utf8_cons, List.length_append, List.length_append,
        String.length_utf8EncodeChar] at hlength
      omega

/-- There is only one such beginning. -/
lemma Fitted.eq_fitting (hkept : Fitted width s kept) : kept = fitting width s.toList := by
  have hbegins := fitting_begins width s.toList
  have hlonger : (utf8 (fitting width s.toList)).length ≤ (utf8 kept).length :=
    hkept.longest ⟨_⟩ (isValid_iff_exists_kept.2 ⟨_, hbegins, rfl⟩)
      (length_utf8_fitting_le width s.toList)
  rcases List.prefix_or_prefix_of_prefix hkept.begins hbegins with hle | hle
  · exact eq_of_prefix_of_length_utf8_le hle hlonger
  · exact (eq_of_prefix_of_length_utf8_le hle
      (length_utf8_le_fitting hkept.begins hkept.fits)).symm

end Fitted

/-! ### Text without its padding -/

/-- A text without the blanks and null characters at its end. -/
structure Unpadded (text shown : List Char) : Prop where
  rest : ∃ padding, text = shown ++ padding ∧ ∀ c ∈ padding, c = ' ' ∨ c = '\x00'
  last : ∀ c ∈ shown.getLast?, c ≠ ' ' ∧ c ≠ '\x00'

/-- Something that holds no words but the sentinel. -/
def OnlySentinels (shown : List Char) : Prop :=
  shown ≠ [] ∧ ∃ found, HasWords shown found ∧ ∀ word ∈ found, word = nullWord

section Shown

variable {text shown : List Char} {c : Char}

lemma isPadding_iff : isPadding c = true ↔ c = ' ' ∨ c = '\x00' := by
  rw [isPadding, Bool.or_eq_true, beq_iff_eq, beq_iff_eq]

lemma unpadded_spec (text : List Char) : Unpadded text (unpadded text) where
  rest := by
    obtain ⟨padding, hpadding, htext⟩ := exists_trimEnd_append isPadding text
    exact ⟨padding, htext.symm, fun c hc => isPadding_iff.1 (hpadding c hc)⟩
  last c hc := by
    rw [unpadded, trimEnd, List.getLast?_reverse] at hc
    have hkept := List.head?_dropWhile_not isPadding text.reverse
    rw [Option.mem_def.1 hc] at hkept
    rw [← not_or, ← isPadding_iff, Bool.not_eq_true]
    exact hkept

lemma isNullText_iff : isNullText text = true ↔ OnlySentinels (unpadded text) := by
  simp only [isNullText, OnlySentinels, hasWords_iff, exists_eq_left', Bool.and_eq_true,
    Bool.not_eq_true', List.isEmpty_eq_false_iff, List.all_eq_true, beq_iff_eq]

lemma words_of_blank (hblank : ∀ c ∈ text, isBlank c = true) : words text = [] := by
  induction text with
  | nil => rfl
  | cons c cs ih =>
      rw [words_cons_of_isBlank (hblank c List.mem_cons_self),
        ih fun d hd => hblank d (List.mem_cons_of_mem c hd)]

lemma mem_of_mem_unpadded (hc : c ∈ unpadded text) : c ∈ text := by
  obtain ⟨padding, htext, -⟩ := (unpadded_spec text).rest
  rw [htext]
  exact List.mem_append_left _ hc

/-- There is only one such text. -/
lemma Unpadded.eq_unpadded (hshown : Unpadded text shown) : shown = unpadded text := by
  obtain ⟨⟨padding, rfl, hpadding⟩, hlast⟩ := hshown
  have hkept : trimEnd isPadding shown = shown :=
    trimEnd_eq_self fun c hc => by
      rw [← Bool.not_eq_true, isPadding_iff, not_or]
      exact hlast c hc
  rw [unpadded_append shown fun c hc => isPadding_iff.2 (hpadding c hc), unpadded, hkept]

/-- White space is read as nothing, unless it is blanks alone. -/
lemma Unpadded.onlySentinels_iff (hshown : Unpadded text shown)
    (hblank : ∀ c ∈ text, isBlank c = true) : OnlySentinels shown ↔ ∃ c ∈ text, c ≠ ' ' := by
  obtain ⟨⟨padding, rfl, hpadding⟩, hlast⟩ := hshown
  have hwords : HasWords shown [] :=
    hasWords_iff.2 (words_of_blank fun c hc => hblank c (List.mem_append_left _ hc))
  constructor
  · rintro ⟨hsome, -⟩
    exact ⟨shown.getLast hsome, List.mem_append_left _ (List.getLast_mem hsome),
      (hlast _ (List.getLast?_eq_getLast_of_ne_nil hsome)).1⟩
  · rintro ⟨c, hc, hne⟩
    refine ⟨?_, [], hwords, List.forall_mem_nil _⟩
    rintro rfl
    rw [List.nil_append] at hc hblank
    rcases hpadding c hc with rfl | rfl
    · exact hne rfl
    · exact absurd (hblank _ hc) (by decide)

lemma unpadded_of_blanks (hblank : ∀ c ∈ text, c = ' ') : unpadded text = [] := by
  refine unpadded_append [] fun c hc => ?_
  rw [hblank c hc]
  rfl

end Shown

/-! ### Values of a span -/

namespace Header

variable {h k : Header} {span : TextSpan}

lemma text?_eq_none_iff :
    h.text? span = none ↔ OnlySentinels (unpadded (h.rawText span)) := by
  rw [text?, ← isNullText_iff]
  simp only [ite_eq_left_iff, reduceCtorEq, imp_false, Bool.not_eq_true, Bool.not_eq_false]

lemma text?_of_not_onlySentinels (hshown : ¬OnlySentinels (unpadded (h.rawText span))) :
    h.text? span = some (String.ofList (unpadded (h.rawText span))) := by
  rw [← isNullText_iff] at hshown
  exact if_neg hshown

lemma textBytes_setText_some (span : TextSpan) (s : String) :
    (h.setText span (some s)).textBytes span = utf8 (fitting span.width s.toList) ++
      List.replicate (span.width - (utf8 (fitting span.width s.toList)).length) blankByte := by
  rw [textBytes_setText, Option.map_some, Option.getD_some, paddedText, List.rightpad]

lemma rawText_setText_some (span : TextSpan) (s : String) :
    (h.setText span (some s)).rawText span = fitting span.width s.toList ++
      List.replicate (span.width - (utf8 (fitting span.width s.toList)).length) ' ' := by
  rw [rawText, textBytes_setText_some, ← utf8_replicate_blank, ← utf8_append, lossy_utf8]

lemma slots_pos_of_text {f : Field} (hf : f ∈ Schema.fields) (hspan : f.cell = .text span) :
    0 < span.slots := by
  obtain ⟨n, rfl⟩ := exists_textName hf hspan
  cases n <;> decide

/-- What was read from well-formed text, a value or nothing, is stored and read again. -/
lemma text?_setText_text? {text : List Char} (hslots : 0 < span.slots)
    (hbytes : h.textBytes span = utf8 text) :
    (k.setText span (h.text? span)).text? span = h.text? span := by
  cases hs : h.text? span with
  | none => exact text?_setText_none hslots
  | some s => exact text?_setText_of_text? hbytes hs

/-- A text is stored as far as it fits, and read back without the padding unless nothing but
sentinels is left. -/
theorem setText_fitted {f : Field} (hf : f ∈ Schema.fields) (hspan : f.cell = .text span)
    (h : Header) (s : String) :
    ∃ kept shown, Fitted span.width s kept ∧
      (h.setText span (some s)).textBytes span =
        utf8 kept ++ List.replicate (span.width - (utf8 kept).length) blankByte ∧
      EqExceptCell (.text span) h (h.setText span (some s)) ∧
      (h.setText span (some s)).rawText span =
        kept ++ List.replicate (span.width - (utf8 kept).length) ' ' ∧
      (replacement ∈ (h.setText span (some s)).rawText span → replacement ∈ s.toList) ∧
      Unpadded kept shown ∧
      ((h.setText span (some s)).text? span = none ↔ OnlySentinels shown) ∧
      (¬OnlySentinels shown →
        (h.setText span (some s)).text? span = some (String.ofList shown)) ∧
      ((∀ c ∈ kept, isBlank c = true) → (OnlySentinels shown ↔ ∃ c ∈ kept, c ≠ ' ')) ∧
      ((∀ c ∈ kept, c = ' ') → (h.setText span (some s)).text? span = some "") ∧
      ∀ k k' : Header, ∀ text, k.textBytes span = utf8 text →
        (k'.setText span (k.text? span)).text? span = k.text? span := by
  have hraw := rawText_setText_some (h := h) span s
  have hshown : unpadded ((h.setText span (some s)).rawText span) =
      unpadded (fitting span.width s.toList) := by
    rw [hraw]
    refine unpadded_append _ fun c hc => ?_
    rw [(List.mem_replicate.1 hc).2]
    rfl
  refine ⟨fitting span.width s.toList, unpadded (fitting span.width s.toList),
    fitted_fitting span.width s, textBytes_setText_some span s, eqExceptCell_setText span _, hraw,
    ?_, unpadded_spec _, ?_, ?_, (unpadded_spec _).onlySentinels_iff, ?_, ?_⟩
  · intro hreplaced
    rw [hraw, List.mem_append, List.mem_replicate] at hreplaced
    rcases hreplaced with hkept | ⟨-, hblank⟩
    · exact (fitting_begins _ _).subset hkept
    · exact absurd hblank (by decide)
  · rw [text?_eq_none_iff, hshown]
  · intro hvalue
    rw [← hshown] at hvalue ⊢
    exact text?_of_not_onlySentinels hvalue
  · intro hblanks
    have hempty : unpadded ((h.setText span (some s)).rawText span) = [] := by
      rw [hshown, unpadded_of_blanks hblanks]
    rw [text?_of_not_onlySentinels (by rw [hempty]; exact fun hnull => hnull.1 rfl), hempty,
      String.ofList_nil]
  · exact fun k k' text hbytes => text?_setText_text? (slots_pos_of_text hf hspan) hbytes

/-- The last character of a text has one byte too many for the span. -/
theorem setText_fitted_cut :
    (blank.setText TextName.kevnm.span (some "Zürich-Kloten ü")).text? TextName.kevnm.span =
      some "Zürich-Kloten" := by
  obtain ⟨f, hf, hspan⟩ := Option.map_eq_some_iff.1 TextName.kevnm.find?_name
  obtain ⟨kept, shown, hkept, -, -, -, -, hshown, -, hvalue, -⟩ :=
    setText_fitted (Schema.find?_eq_some hf).1 hspan blank "Zürich-Kloten ü"
  obtain rfl := hkept.eq_fitting
  obtain rfl := hshown.eq_unpadded
  have hsome : isNullText (fitting TextName.kevnm.span.width "Zürich-Kloten ü".toList) = false := by
    decide
  rw [hvalue (by rw [← isNullText_iff, hsome]; exact Bool.false_ne_true)]
  decide

end Header

end Seismogram
