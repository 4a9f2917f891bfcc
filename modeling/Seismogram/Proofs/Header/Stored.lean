/-
# Values stored and read back

What was read from a field is stored in that field of any header and read back from it
(`store_of_value?`): words, truth values and symbols because they were not null, and text
because what is left without its padding fits into the span.  Only well-formed text is sure to
fit: each broken beginning of a character is read as a replacement character of three bytes.
-/
import Mathlib.Tactic.Common
import Seismogram.Proofs.Header.Fields
import Seismogram.Proofs.Text.Trim

namespace Seismogram

open Seismogram.Number Seismogram.Time Seismogram.Outcome

/-! ### Padding -/

open Text

lemma unpadded_append (text : List Char) {padding : List Char}
    (hpadding : ∀ c ∈ padding, isPadding c = true) : unpadded (text ++ padding) = unpadded text :=
  trimEnd_append text hpadding

lemma unpadded_unpadded (text : List Char) : unpadded (unpadded text) = unpadded text :=
  trimEnd_trimEnd

/-- Null text is told without its padding. -/
lemma isNullText_congr {text text' : List Char} (heq : unpadded text' = unpadded text) :
    isNullText text' = isNullText text := by
  rw [isNullText, isNullText, heq]

/-! ### Text in a span -/

lemma fitting_eq_self {width : ℕ} {text : List Char} (hfits : (utf8 text).length ≤ width) :
    fitting width text = text := by
  induction text generalizing width with
  | nil => rfl
  | cons c cs ih =>
      rw [utf8_cons, List.length_append, String.length_utf8EncodeChar] at hfits
      rw [fitting, if_pos (by omega), ih (by omega)]

lemma utf8_replicate_blank (n : ℕ) :
    utf8 (List.replicate n ' ') = List.replicate n blankByte := by
  induction n with
  | zero => rfl
  | succ n ih =>
      rw [List.replicate_succ, utf8_cons, ih]
      rfl

/-- What fits of a text is stored, followed by blanks. -/
lemma paddedText_eq (width : ℕ) (text : List Char) :
    ∃ padding, (∀ c ∈ padding, isPadding c = true) ∧
      paddedText width text = utf8 (fitting width text ++ padding) := by
  refine ⟨List.replicate (width - (utf8 (fitting width text)).length) ' ', fun c hc => ?_, ?_⟩
  · rw [(List.mem_replicate.1 hc).2]
    rfl
  · rw [paddedText, List.rightpad, utf8_append, utf8_replicate_blank]

namespace Header

variable {h k : Header}

/-- What is stored in a span is read from it, whatever was there. -/
lemma textBytes_setText (span : TextSpan) (s : Option String) :
    (h.setText span s).textBytes span =
      paddedText span.width ((s.map String.toList).getD nullWord) := by
  have hfits := span.fits
  rw [textSlots] at hfits
  refine List.ext_getElem? fun i => ?_
  rcases Nat.lt_or_ge i span.width with hi | hi
  · have hbyte : span.offset + i < 192 := by
      rw [TextSpan.width, textSlotWidth] at hi
      rw [TextSpan.offset, textSlotWidth]
      omega
    rw [getElem?_textBytes span hi, text_setText, Vector.getElem?_eq_getElem hbyte, overwrite,
      Vector.getElem_ofFn, if_pos (Nat.le_add_right _ _), Nat.add_sub_cancel_left,
      List.getElem?_eq_getElem (by rwa [length_paddedText]), Option.getD_some]
  · rw [List.getElem?_eq_none (by rwa [length_textBytes]),
      List.getElem?_eq_none (by rwa [length_paddedText])]

/-- What is read back does not depend on the header that the text was stored in. -/
lemma text?_setText_congr (span : TextSpan) (s : Option String) :
    (h.setText span s).text? span = (k.setText span s).text? span :=
  text?_congr (by rw [textBytes_setText, textBytes_setText])

/-- What fits of a text is read back without its padding, or null if it is nothing but
sentinels. -/
lemma text?_setText (span : TextSpan) (s : String) :
    (h.setText span (some s)).text? span =
      if isNullText (fitting span.width s.toList) then none
      else some (String.ofList (unpadded (fitting span.width s.toList))) := by
  obtain ⟨padding, hpadding, hpadded⟩ := paddedText_eq span.width s.toList
  have hunpadded := unpadded_append (fitting span.width s.toList) hpadding
  rw [text?, rawText, textBytes_setText, Option.map_some, Option.getD_some, hpadded, lossy_utf8,
    hunpadded, isNullText_congr hunpadded]

/-- Nothing stored in a span that holds the sentinel is read back as null. -/
lemma text?_setText_none {span : TextSpan} (hspan : 0 < span.slots) :
    (h.setText span none).text? span = none := by
  have hwidth : (utf8 nullWord).length ≤ span.width := by
    rw [TextSpan.width, textSlotWidth, show (utf8 nullWord).length = 6 from rfl]
    omega
  obtain ⟨padding, hpadding, hpadded⟩ := paddedText_eq span.width nullWord
  have hnull : isNullText nullWord = true := by decide +kernel
  rw [text?, rawText, textBytes_setText, Option.map_none, Option.getD_none, hpadded, lossy_utf8,
    fitting_eq_self hwidth, isNullText_congr (unpadded_append _ hpadding), if_pos hnull]

/-- Well-formed text that was read is read back. -/
lemma text?_setText_of_text? {span : TextSpan} {text : List Char} {s : String}
    (hbytes : h.textBytes span = utf8 text) (hs : h.text? span = some s) :
    (k.setText span (some s)).text? span = some s := by
  simp only [text?, rawText, hbytes, lossy_utf8] at hs
  split_ifs at hs with hnull
  rw [Option.some.injEq] at hs
  subst hs
  have hfits : (utf8 (String.ofList (unpadded text)).toList).length ≤ span.width := by
    rw [String.toList_ofList, ← length_textBytes (h := h), hbytes]
    exact length_utf8_trimEnd_le isPadding text
  rw [text?_setText, fitting_eq_self hfits, String.toList_ofList,
    isNullText_congr (unpadded_unpadded text), if_neg hnull, unpadded_unpadded]

/-! ### Codes -/

lemma ofCode?_nullInteger : Symbol.ofCode? nullInteger = none := by decide +kernel

lemma logical?_setLogical (name : String) (slot : Fin 40) (b : Bool) :
    (h.setLogical slot (some b)).logical? name slot = .ok (some b) := by
  have hstored : (h.setLogical slot (some b)).integer? slot = some (ofBool b) := by
    rw [integer?_eq_some_iff, setLogical, storedInteger_setInteger, if_pos rfl]
    refine ⟨?_, rfl⟩
    cases b <;> decide
  rw [logical?, hstored]
  cases b <;> rfl

/-- A symbol that a field accepts is stored by its code, and read back by it. -/
lemma setSymbol_of_accepted (h : Header) (name : String) (slot : Fin 40) {accepted : List String}
    {s : String} (hcodes : (Symbol.code? s).bind Symbol.ofCode? = some s)
    (hs : accepted.contains s = true) :
    ∃ k, h.setSymbol name slot accepted (some s) = .ok k ∧
      k.symbol? name slot accepted = .ok (some s) := by
  obtain ⟨code, hcode, hsymbol⟩ := Option.bind_eq_some_iff.1 hcodes
  refine ⟨h.setInteger slot (some code), ?_, ?_⟩
  · simp only [setSymbol, hs, if_true, hcode]
  · have hstored : (h.setInteger slot (some code)).integer? slot = some code := by
      rw [integer?_eq_some_iff, storedInteger_setInteger, if_pos rfl]
      refine ⟨?_, rfl⟩
      rintro rfl
      exact absurd (ofCode?_nullInteger.symm.trans hsymbol) (by simp)
    simp only [symbol?, hstored, hsymbol, hs, if_true]

lemma accepted_of_symbol? {name : String} {slot : Fin 40} {accepted : List String} {s : String}
    (hs : h.symbol? name slot accepted = .ok (some s)) : accepted.contains s = true := by
  rw [symbol?] at hs
  split at hs
  · exact absurd hs (by simp)
  · split at hs
    · rename_i symbol _
      split_ifs at hs with haccepted
      obtain rfl := Option.some.inj (Except.ok.inj hs)
      exact haccepted
    · exact absurd hs (by simp)

/-! ### Values -/

lemma exists_textName {f : Field} (hf : f ∈ Schema.fields) {span : TextSpan}
    (hspan : f.cell = .text span) : ∃ n : TextName, n.span = span := by
  have hall : ∀ f ∈ Schema.fields, f.kind = .text →
      ∃ n ∈ TextName.all, f.cell = .text n.span := by
    decide +kernel
  obtain ⟨n, -, hn⟩ := hall f hf (by rw [Field.kind, hspan, Cell.kind])
  exact ⟨n, Cell.text.inj (hn.symm.trans hspan)⟩

/-- Every text of a header is well formed. -/
def TextWellFormed (h : Header) : Prop :=
  ∀ n : TextName, ∃ text, h.textBytes n.span = utf8 text

/-- The text of a field, if the field is one of text, is well formed. -/
def FieldWellFormed (h : Header) (f : Field) : Prop :=
  ∀ span, f.cell = .text span → ∃ text, h.textBytes span = utf8 text

lemma TextWellFormed.field (htext : h.TextWellFormed) {f : Field} (hf : f ∈ Schema.fields) :
    h.FieldWellFormed f := by
  intro span hspan
  obtain ⟨n, rfl⟩ := exists_textName hf hspan
  exact htext n

/-- Blanks are text. -/
lemma textWellFormed_of_blank (htext : h.text = blank.text) : h.TextWellFormed := by
  intro n
  refine ⟨List.replicate n.span.width ' ', ?_⟩
  have hfits := n.span.fits
  have hblanks : blank.text.toList = List.replicate 192 blankByte := Vector.toList_replicate
  rw [textBytes, htext, hblanks, List.drop_replicate, List.take_replicate, utf8_replicate_blank]
  congr 1
  rw [textSlots] at hfits
  rw [TextSpan.offset, TextSpan.width, textSlotWidth]
  omega

/-- What was read from a field is stored in that field of any header, and read back from it. -/
lemma store_of_value? {f : Field} {v : Value} (hf : f ∈ Schema.fields)
    (htext : h.FieldWellFormed f) (hv : h.value? f = .ok (some v)) :
    ∃ k', k.store f v = .ok k' ∧ k'.value? f = .ok (some v) := by
  have hword {slot : Fin 70} {x : Single} (hx : h.real? slot = some x) :
      (k.setReal slot (some x)).real? slot = some x := by
    rw [real?_eq_some_iff, storedReal_setReal, if_pos rfl]
    exact ⟨(real?_eq_some_iff.1 hx).1, rfl⟩
  have hinteger {slot : Fin 40} {n : Int32} (hn : h.integer? slot = some n) :
      (k.setInteger slot (some n)).integer? slot = some n := by
    rw [integer?_eq_some_iff, storedInteger_setInteger, if_pos rfl]
    exact ⟨(integer?_eq_some_iff.1 hn).1, rfl⟩
  rw [value?] at hv
  cases hcell : f.cell with
  | real slot =>
      simp only [hcell, Except.ok.injEq, Option.map_eq_some_iff] at hv
      obtain ⟨x, hx, rfl⟩ := hv
      refine ⟨k.setReal slot (some x), by simp only [store, hcell], ?_⟩
      simp only [value?, hcell, hword hx, Option.map_some]
  | relativeTime slot =>
      simp only [hcell, Except.ok.injEq, Option.map_eq_some_iff] at hv
      obtain ⟨x, hx, rfl⟩ := hv
      refine ⟨k.setReal slot (some x), by simp only [store, hcell], ?_⟩
      simp only [value?, hcell, hword hx, Option.map_some]
  | integer slot =>
      simp only [hcell, Except.ok.injEq, Option.map_eq_some_iff] at hv
      obtain ⟨n, hn, rfl⟩ := hv
      refine ⟨k.setInteger slot (some n), by simp only [store, hcell], ?_⟩
      simp only [value?, hcell, hinteger hn, Option.map_some]
  | logical slot =>
      simp only [hcell, bind_eq_ok_iff, Except.ok.injEq, Option.map_eq_some_iff] at hv
      obtain ⟨_, -, b, -, rfl⟩ := hv
      refine ⟨k.setLogical slot (some b), by simp only [store, hcell], ?_⟩
      simp only [value?, hcell, logical?_setLogical, ok_bind, Option.map_some]
  | enumerated slot accepted =>
      simp only [hcell, bind_eq_ok_iff, Except.ok.injEq, Option.map_eq_some_iff] at hv
      obtain ⟨_, hsymbol, s, rfl, rfl⟩ := hv
      have haccepted := accepted_of_symbol? hsymbol
      have hcodes : (Symbol.code? s).bind Symbol.ofCode? = some s := by
        refine Symbol.accepted_have_codes f hf s ?_
        rw [hcell]
        exact List.contains_iff_mem.1 haccepted
      obtain ⟨k', hk', hread⟩ := setSymbol_of_accepted k f.name slot
        hcodes haccepted
      refine ⟨k', by simp only [store, hcell, hk'], ?_⟩
      simp only [value?, hcell, hread, ok_bind, Option.map_some]
  | text span =>
      simp only [hcell, Except.ok.injEq, Option.map_eq_some_iff] at hv
      obtain ⟨s, hs, rfl⟩ := hv
      obtain ⟨text, hbytes⟩ := htext span hcell
      refine ⟨k.setText span (some s), by simp only [store, hcell], ?_⟩
      simp only [value?, hcell, text?_setText_of_text? hbytes hs, Option.map_some]

end Header

end Seismogram
