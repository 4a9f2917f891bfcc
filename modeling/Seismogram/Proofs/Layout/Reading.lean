/-
# What alphanumeric files are read

A block of numbers is read if its lines are texts and if the words of these texts, taken
together, are numbers and as many as the block has (`readNumbers_eq_ok_iff`).  The lines of
text are read byte by byte, and a byte that is missing is a blank (`readText_eq_ok_iff`).
The header is read if its three blocks are, and the samples are the words of what follows,
as many as the header says (`decode_eq_ok_iff`).
-/
import Mathlib.Data.List.Forall2
import Seismogram.Layout.Alphanumeric
import Seismogram.Proofs.Outcome

namespace Seismogram.Alphanumeric

open Seismogram.Outcome Seismogram.Number

/-! ### Lists side by side -/

section Lists

variable {α β γ : Type} {R : α → β → Prop} {S : β → γ → Prop}

lemma forall₂_append_left_iff {xs xs' : List α} {zs : List β} :
    List.Forall₂ R (xs ++ xs') zs ↔
      ∃ ys ys', List.Forall₂ R xs ys ∧ List.Forall₂ R xs' ys' ∧ ys ++ ys' = zs := by
  constructor
  · intro h
    induction xs generalizing zs with
    | nil => exact ⟨[], zs, .nil, h, rfl⟩
    | cons x xs ih =>
        obtain ⟨z, zs, hz, hzs, rfl⟩ := List.forall₂_cons_left_iff.1 h
        obtain ⟨ys, ys', hys, hys', rfl⟩ := ih hzs
        exact ⟨z :: ys, ys', .cons hz hys, hys', rfl⟩
  · rintro ⟨ys, ys', hys, hys', rfl⟩
    exact List.rel_append hys hys'

/-- Lists in a row are related to a list if it can be cut into lists that they are related
to, one by one. -/
lemma forall₂_flatMap_left_iff {f : γ → List α} {xs : List γ} {zs : List β} :
    List.Forall₂ R (xs.flatMap f) zs ↔
      ∃ yss, List.Forall₂ (fun x ys => List.Forall₂ R (f x) ys) xs yss ∧ yss.flatten = zs := by
  induction xs generalizing zs with
  | nil => simp [eq_comm]
  | cons x xs ih =>
      rw [List.flatMap_cons, forall₂_append_left_iff]
      constructor
      · rintro ⟨ys, ys', hys, hys', rfl⟩
        obtain ⟨yss, hyss, rfl⟩ := ih.1 hys'
        exact ⟨ys :: yss, .cons hys hyss, rfl⟩
      · rintro ⟨yss, hyss, rfl⟩
        obtain ⟨ys, later, hys, hlater, rfl⟩ := List.forall₂_cons_left_iff.1 hyss
        exact ⟨ys, later.flatten, hys, ih.2 ⟨later, hlater, rfl⟩, rfl⟩

lemma forall₂_comp_iff {xs : List α} {zs : List γ} :
    List.Forall₂ (fun x z => ∃ y, R x y ∧ S y z) xs zs ↔
      ∃ ys, List.Forall₂ R xs ys ∧ List.Forall₂ S ys zs := by
  constructor
  · intro h
    induction h with
    | nil => exact ⟨[], .nil, .nil⟩
    | cons hxz _ ih =>
        obtain ⟨y, hxy, hyz⟩ := hxz
        obtain ⟨ys, hxys, hysz⟩ := ih
        exact ⟨y :: ys, .cons hxy hxys, .cons hyz hysz⟩
  · rintro ⟨ys, hxys, hysz⟩
    induction hxys generalizing zs with
    | nil =>
        obtain rfl := List.forall₂_nil_left_iff.1 hysz
        exact .nil
    | cons hxy _ ih =>
        obtain ⟨z, later, hyz, hlater, rfl⟩ := List.forall₂_cons_left_iff.1 hysz
        exact .cons ⟨_, hxy, hyz⟩ (ih hlater)

lemma exists_mem_of_forall₂ {xs : List α} {ys : List β} (h : List.Forall₂ R xs ys) {y : β}
    (hy : y ∈ ys) : ∃ x ∈ xs, R x y := by
  induction h with
  | nil => exact absurd hy List.not_mem_nil
  | cons hxy _ ih =>
      rcases List.mem_cons.1 hy with rfl | hlater
      · exact ⟨_, List.mem_cons_self, hxy⟩
      · obtain ⟨x, hx, hxy⟩ := ih hlater
        exact ⟨x, List.mem_cons_of_mem _ hx, hxy⟩

/-- What a function relates to a list is the list of its values. -/
lemma forall₂_iff_map_eq {f : α → β} (hR : ∀ x y, R x y ↔ f x = y) {xs : List α}
    {ys : List β} : List.Forall₂ R xs ys ↔ xs.map f = ys := by
  rw [← List.forall₂_eq_eq_eq, List.forall₂_map_left_iff]
  exact ⟨List.Forall₂.imp fun x y => (hR x y).1, List.Forall₂.imp fun x y => (hR x y).2⟩

/-- The elements of lists of one length in a row. -/
lemma getElem?_flatten {width : ℕ} {xss : List (List α)} (hwidth : 0 < width)
    (hxss : ∀ xs ∈ xss, xs.length = width) (i : ℕ) :
    xss.flatten[i]? = (xss[i / width]?).bind fun xs => xs[i % width]? := by
  induction xss generalizing i with
  | nil => rfl
  | cons xs xss ih =>
      have hxs : xs.length = width := hxss xs List.mem_cons_self
      rw [List.flatten_cons]
      rcases Nat.lt_or_ge i width with hlt | hge
      · rw [List.getElem?_append_left (by omega), Nat.div_eq_of_lt hlt, Nat.mod_eq_of_lt hlt]
        rfl
      · obtain ⟨j, rfl⟩ := Nat.exists_eq_add_of_le hge
        rw [List.getElem?_append_right (by omega), hxs, Nat.add_sub_cancel_left,
          ih (fun ys hys => hxss ys (List.mem_cons_of_mem xs hys)), Nat.add_div_left j hwidth,
          Nat.add_mod_left, List.getElem?_cons_succ]

end Lists

/-! ### Numbers -/

section Numbers

variable {α : Type} {block : NumberBlock} {read? : List Char → Option α} {count : ℕ}

lemma readWord_eq_ok_iff {word : List Char} {x : α} :
    readWord block read? word = .ok x ↔ read? word = some x := by
  rw [readWord]
  split
  · rename_i y hy
    rw [hy, Except.ok.injEq, Option.some.injEq]
  · rename_i hnone
    simp [hnone, malformed]

lemma readLine_eq_ok_iff {line : List UInt8} {xs : List α} :
    readLine block read? line = .ok xs ↔
      ∃ text, Text.decode? line = some text ∧
        List.Forall₂ (fun word x => read? word = some x) (Text.words text) xs := by
  rw [readLine]
  split
  · rename_i text htext
    simp only [htext, Option.some.injEq, exists_eq_left', mapM_eq_ok_iff, readWord_eq_ok_iff]
  · rename_i hnone
    simp [hnone, malformed]

/-- The numbers of a block are the words of its lines, in any distribution over them. -/
lemma readNumbers_eq_ok_iff {lines : List (List UInt8)} {v : Vector α count} :
    readNumbers block read? count lines = .ok v ↔
      ∃ texts, List.Forall₂ (fun line text => Text.decode? line = some text) lines texts ∧
        List.Forall₂ (fun word x => read? word = some x) (texts.flatMap Text.words) v.toList := by
  have hlines {numbers : List (List α)} : lines.mapM (readLine block read?) = .ok numbers ↔
      ∃ texts, List.Forall₂ (fun line text => Text.decode? line = some text) lines texts ∧
        List.Forall₂ (fun text xs => List.Forall₂ (fun word x => read? word = some x)
          (Text.words text) xs) texts numbers := by
    simp only [mapM_eq_ok_iff, readLine_eq_ok_iff, forall₂_comp_iff]
  -- the numbers are gathered line by line, and the words are those of all lines in a row
  rw [readNumbers, bind_eq_ok_iff]
  constructor
  · rintro ⟨numbers, hnumbers, hv⟩
    obtain ⟨texts, htexts, hwords⟩ := hlines.1 hnumbers
    refine ⟨texts, htexts, forall₂_flatMap_left_iff.2 ⟨numbers, hwords, ?_⟩⟩
    dsimp only at hv
    split at hv
    · rw [← Except.ok.inj hv]
      rfl
    · exact absurd hv (by simp [malformed])
  · rintro ⟨texts, htexts, hwords⟩
    obtain ⟨numbers, hnumbers, hflatten⟩ := forall₂_flatMap_left_iff.1 hwords
    refine ⟨numbers, hlines.2 ⟨texts, htexts, hnumbers⟩, ?_⟩
    have hcount : numbers.flatten.length = count := by rw [hflatten, Vector.length_toList]
    rw [dif_pos hcount, Except.ok.injEq, ← Vector.toList_inj, ← hflatten]
    rfl

/-- Lines that were written as texts are read as these. -/
lemma readNumbers_utf8_eq_ok_iff {texts : List (List Char)} {v : Vector α count} :
    readNumbers block read? count (texts.map Text.utf8) = .ok v ↔
      List.Forall₂ (fun word x => read? word = some x) (texts.flatMap Text.words) v.toList := by
  have htexts {texts' : List (List Char)} :
      List.Forall₂ (fun line text => Text.decode? line = some text) (texts.map Text.utf8) texts' ↔
        texts = texts' := by
    simp only [List.forall₂_map_left_iff, Text.decode?_utf8, Option.some.injEq,
      List.forall₂_eq_eq_eq]
  simp only [readNumbers_eq_ok_iff, htexts, exists_eq_left']

end Numbers

/-! ### Text -/

lemma readTextLine_eq_ok_iff {line : List UInt8 × ℕ} {bytes : List UInt8} :
    readTextLine line = .ok bytes ↔
      line.1.length ≤ textLineWidth ∧ line.1.rightpad textLineWidth blankByte = bytes := by
  rw [readTextLine]
  split
  · rename_i hle
    simp [hle]
  · rename_i hgt
    simp [hgt, malformed]

/-- The numbers of the lines are for messages only. -/
lemma mapM_readTextLine_eq_ok_iff {lines rows : List (List UInt8)} {k : ℕ} :
    (lines.zipIdx k).mapM readTextLine = .ok rows ↔
      (∀ line ∈ lines, line.length ≤ textLineWidth) ∧
        lines.map (List.rightpad textLineWidth blankByte) = rows := by
  have hfst := List.zipIdx_map_fst k lines
  rw [mapM_eq_ok_iff, ← hfst, List.forall_mem_map, List.map_map, ← List.forall₂_eq_eq_eq,
    List.forall₂_map_left_iff, ← List.forall₂_and_left, hfst]
  simp only [readTextLine_eq_ok_iff, Function.comp]

/-- The byte of the text at a place of one of its lines, a blank where the line has none. -/
def textByte (lines : List (List UInt8)) (i : ℕ) : UInt8 :=
  ((lines[i / textLineWidth]?.getD [])[i % textLineWidth]?).getD blankByte

lemma getElem?_rightpad {row : List UInt8} {j : ℕ} (hj : j < textLineWidth) :
    (row.rightpad textLineWidth blankByte)[j]? = some ((row[j]?).getD blankByte) := by
  rw [List.rightpad]
  rcases Nat.lt_or_ge j row.length with hlt | hge
  · rw [List.getElem?_append_left hlt, List.getElem?_eq_getElem hlt]
    rfl
  · rw [List.getElem?_append_right hge, List.getElem?_eq_none hge,
      List.getElem?_replicate_of_lt (by omega)]
    rfl

lemma getD_flatten_rightpad {lines : List (List UInt8)} (i : ℕ)
    (hlines : ∀ line ∈ lines, line.length ≤ textLineWidth) :
    ((lines.map (List.rightpad textLineWidth blankByte)).flatten).getD i blankByte =
      textByte lines i := by
  have hpadded : ∀ line ∈ lines.map (List.rightpad textLineWidth blankByte),
      line.length = textLineWidth := by
    rw [List.forall_mem_map]
    intro line hline
    have hle := hlines line hline
    rw [List.rightpad, List.length_append, List.length_replicate]
    omega
  rw [List.getD_eq_getElem?_getD, getElem?_flatten (by decide) hpadded, List.getElem?_map, textByte]
  cases lines[i / textLineWidth]? with
  | none => rfl
  | some line =>
      rw [Option.map_some, Option.bind_some, getElem?_rightpad (Nat.mod_lt i (by decide))]
      rfl

/-- The lines of text are read where none is too long. -/
lemma readText_eq_ok_iff {lines : List (List UInt8)} {text : Vector UInt8 192} :
    readText lines = .ok text ↔
      (∀ line ∈ lines, line.length ≤ textLineWidth) ∧
        text = .ofFn fun i => textByte lines i.val := by
  rw [readText, bind_eq_ok_iff]
  simp only [mapM_readTextLine_eq_ok_iff, and_assoc, exists_and_left, exists_eq_left']
  refine and_congr_right fun hlines => ?_
  rw [Except.ok.injEq, eq_comm]
  simp only [getD_flatten_rightpad _ hlines]

/-! ### Files -/

variable {h : Header} {lines : List (List UInt8)} {data : List UInt8}

/-- A header is read if its three blocks are. -/
lemma readHeader_eq_ok_iff :
    readHeader lines = .ok h ↔
      headerLines ≤ lines.length ∧
      readNumbers .reals readReal 70 (lines.take realLines) = .ok h.reals ∧
      readNumbers .integers readInteger 40 ((lines.drop realLines).take integerLines)
        = .ok h.integers ∧
      readText ((lines.drop (realLines + integerLines)).take textLines) = .ok h.text := by
  rw [readHeader]
  split
  · rename_i hshort
    simp only [malformed, error_bind, reduceCtorEq, false_iff, not_and]
    omega
  · rename_i hlong
    simp only [bind_eq_ok_iff, Except.ok.injEq]
    constructor
    · rintro ⟨reals, hreals, integers, hintegers, text, htext, rfl⟩
      exact ⟨Nat.le_of_not_lt hlong, hreals, hintegers, htext⟩
    · rintro ⟨-, hreals, hintegers, htext⟩
      exact ⟨h.reals, hreals, h.integers, hintegers, h.text, htext, rfl⟩

lemma sampleCount_eq_ok_iff {n : ℕ} : sampleCount h = .ok n ↔ h.sampleCount = .ok n := by
  rw [sampleCount]
  split
  · rename_i npts hfail
    simp [hfail, malformed]
  · rfl

lemma decode_headerOnly_eq_ok_iff {samples : Option (List Single)} :
    decode data true = .ok (h, samples) ↔ readHeader (linesOf data) = .ok h ∧ samples = none := by
  simp only [decode, bind_eq_ok_iff, if_true, Except.ok.injEq, Prod.mk.injEq]
  constructor
  · rintro ⟨k, hk, rfl, rfl⟩
    exact ⟨hk, rfl⟩
  · rintro ⟨hh, rfl⟩
    exact ⟨h, hh, rfl, rfl⟩

/-- A file is read if its header is and as many samples as the header says. -/
lemma decode_eq_ok_iff {samples : Option (List Single)} :
    decode data false = .ok (h, samples) ↔
      readHeader (linesOf data) = .ok h ∧
        ∃ (n : ℕ) (v : Vector Single n), h.sampleCount = .ok n ∧
          readNumbers .samples readReal n ((linesOf data).drop headerLines) = .ok v ∧
          samples = some v.toList := by
  simp only [decode, bind_eq_ok_iff, Bool.false_eq_true, if_false, Except.ok.injEq, Prod.mk.injEq,
    sampleCount_eq_ok_iff]
  constructor
  · rintro ⟨k, hk, n, hn, v, hv, rfl, rfl⟩
    exact ⟨hk, n, v, hn, hv, rfl⟩
  · rintro ⟨hh, n, v, hn, hv, rfl⟩
    exact ⟨h, hh, n, hn, v, hv, rfl, rfl⟩

end Seismogram.Alphanumeric
