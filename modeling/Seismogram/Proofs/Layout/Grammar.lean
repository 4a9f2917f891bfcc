/-
# The grammar of alphanumeric files

What an alphanumeric file is, without a reader: its bytes are cut at line feeds, a carriage
return at the end of a line and an empty line at the end of the file have no part in it
(`HasLines`); the lines of a block of numbers are texts whose words are numbers (`HoldsNumbers`),
and the lines of text are not too long.  The words of the integers say how many samples there are
(`PromisesSamples`).

The files that are read are those of the grammar (`decode_grammar`): a header that is read holds
the numbers that the words are and the bytes of the lines of text, and where nothing is read the
fault is one of the text.
-/
import Seismogram.Proofs.Layout.Lines
import Seismogram.Proofs.Layout.Reading
import Seismogram.Proofs.Text.Words
import Seismogram.Proofs.Trace.Encoding

namespace Seismogram.Alphanumeric

open Seismogram.Number Seismogram.Outcome

/-! ### Lines of a file -/

/-- A list without the element at its end, if that is `x`. -/
def WithoutLast {α : Type} (x : α) (xs ys : List α) : Prop :=
  xs = ys ++ [x] ∨ xs = ys ∧ xs.getLast? ≠ some x

/-- The pieces of a file between line feeds. -/
structure HasPieces (data : List UInt8) (pieces : List (List UInt8)) : Prop where
  ne_nil : pieces ≠ []
  inside : ∀ piece ∈ pieces, lineFeed ∉ piece
  joined : [lineFeed].intercalate pieces = data

/-- The lines of a file: its pieces, without a carriage return at the end of each and without
an empty line at the end of them. -/
def HasLines (data : List UInt8) (lines : List (List UInt8)) : Prop :=
  ∃ pieces ended, HasPieces data pieces ∧
    List.Forall₂ (WithoutLast carriageReturn) pieces ended ∧ WithoutLast [] ended lines

section Lines

variable {data line : List UInt8} {pieces lines : List (List UInt8)}

lemma withoutLast_iff {α : Type} [DecidableEq α] {x : α} {xs ys : List α} :
    WithoutLast x xs ys ↔ (if xs.getLast? = some x then xs.dropLast else xs) = ys := by
  constructor
  · rintro (rfl | ⟨rfl, hlast⟩)
    · simp
    · rw [if_neg hlast]
  · rintro rfl
    split
    · rename_i hlast
      exact Or.inl (List.dropLast_append_getLast? x hlast).symm
    · rename_i hlast
      exact Or.inr ⟨rfl, hlast⟩

/-- The bytes are cut as the library cuts lists. -/
lemma splitLines_eq_splitOn (data : List UInt8) : splitLines data = data.splitOn lineFeed := by
  rw [splitLines, List.splitOn]
  induction data with
  | nil => rfl
  | cons b bs ih =>
      rw [Text.pieces, List.splitOnP_cons_eq_if_modifyHead, ← ih]
      refine if_congr Iff.rfl rfl ?_
      split
      · rename_i hpieces
        rw [hpieces]
        rfl
      · rename_i hnone
        exact absurd hnone (Text.pieces_ne_nil _ _)

/-- The bytes of a piece are bytes of the file, and none of them is a line feed. -/
lemma mem_of_mem_splitLines {b : UInt8} {piece : List UInt8} (hpiece : piece ∈ splitLines data)
    (hb : b ∈ piece) : b ∈ data ∧ b ≠ lineFeed := by
  rw [splitLines] at hpiece
  induction data generalizing piece with
  | nil =>
      obtain rfl := List.mem_singleton.1 hpiece
      exact absurd hb List.not_mem_nil
  | cons first bs ih =>
      have hlater {piece : List UInt8} (hpiece : piece ∈ Text.pieces (· == lineFeed) bs)
          (hb : b ∈ piece) : b ∈ first :: bs ∧ b ≠ lineFeed := by
        obtain ⟨hmem, hne⟩ := ih hpiece hb
        exact ⟨List.mem_cons_of_mem first hmem, hne⟩
      rw [Text.pieces] at hpiece
      split at hpiece
      · rcases List.mem_cons.1 hpiece with rfl | hpiece
        · exact absurd hb List.not_mem_nil
        · exact hlater hpiece hb
      · rename_i hfirst
        -- the first byte is in the first piece
        have hhead : first ∈ first :: bs ∧ first ≠ lineFeed :=
          ⟨List.mem_cons_self, fun heq => hfirst (beq_iff_eq.2 heq)⟩
        split at hpiece
        · rename_i begun later hpieces
          rw [hpieces] at hlater
          rcases List.mem_cons.1 hpiece with rfl | hpiece
          · rcases List.mem_cons.1 hb with rfl | hb
            · exact hhead
            · exact hlater List.mem_cons_self hb
          · exact hlater (List.mem_cons_of_mem begun hpiece) hb
        · exact absurd ‹_› (Text.pieces_ne_nil _ _)

lemma hasPieces_iff : HasPieces data pieces ↔ splitLines data = pieces := by
  constructor
  · rintro ⟨hne, hinside, rfl⟩
    rw [splitLines_eq_splitOn, List.splitOn_intercalate lineFeed hinside hne]
  · rintro rfl
    refine ⟨Text.pieces_ne_nil _ _, ?_, ?_⟩
    · intro piece hpiece hfeed
      exact (mem_of_mem_splitLines hpiece hfeed).2 rfl
    · rw [splitLines_eq_splitOn, List.intercalate_splitOn]

/-- The lines that are found are those of the file. -/
lemma hasLines_iff : HasLines data lines ↔ linesOf data = lines := by
  have hended {pieces ended : List (List UInt8)} :
      List.Forall₂ (WithoutLast carriageReturn) pieces ended ↔ pieces.map withoutReturn = ended :=
    forall₂_iff_map_eq fun _ _ => withoutLast_iff
  rw [HasLines, linesOf]
  simp only [hasPieces_iff, hended, withoutLast_iff, exists_and_left, exists_eq_left']

/-- The bytes of a line are bytes of the file, and none of them is a line feed. -/
lemma mem_of_mem_linesOf {b : UInt8} (hline : line ∈ linesOf data) (hb : b ∈ line) :
    b ∈ data ∧ b ≠ lineFeed := by
  have hended : line ∈ (splitLines data).map withoutReturn := by
    rw [linesOf] at hline
    split at hline
    · exact List.dropLast_subset _ hline
    · exact hline
  obtain ⟨piece, hpiece, rfl⟩ := List.mem_map.1 hended
  refine mem_of_mem_splitLines hpiece ?_
  rw [withoutReturn] at hb
  split at hb
  · exact List.dropLast_subset _ hb
  · exact hb

end Lines

/-! ### Blocks of numbers -/

/-- Lines that are texts, with the words of these texts in order, in any distribution over the
lines. -/
def HasTokens (lines : List (List UInt8)) (tokens : List (List Char)) : Prop :=
  ∃ texts found, texts.map Text.utf8 = lines ∧ List.Forall₂ Text.HasWords texts found ∧
    found.flatten = tokens

/-- Lines with these words, which are numbers of a kind. -/
structure HoldsNumbers {α : Type} (read? : List Char → Option α) (lines : List (List UInt8))
    (tokens : List (List Char)) : Prop where
  found : HasTokens lines tokens
  valid : ∀ token ∈ tokens, (read? token).isSome

/-- Words that are these numbers, one by one. -/
def AreNumbers {α : Type} (read? : List Char → Option α) (tokens : List (List Char))
    (numbers : List α) : Prop :=
  List.Forall₂ (fun token x => read? token = some x) tokens numbers

section Numbers

variable {α : Type} {block : NumberBlock} {read? : List Char → Option α} {count : ℕ}
  {lines : List (List UInt8)} {tokens : List (List Char)}

lemma hasTokens_iff :
    HasTokens lines tokens ↔
      ∃ texts : List (List Char), texts.map Text.utf8 = lines ∧
        texts.flatMap Text.words = tokens := by
  have hfound {texts : List (List Char)} {found : List (List (List Char))} :
      List.Forall₂ Text.HasWords texts found ↔ texts.map Text.words = found :=
    forall₂_iff_map_eq (f := Text.words) fun _ _ => Text.hasWords_iff
  simp only [HasTokens, exists_and_left, hfound, exists_eq_left', List.flatMap_def]

/-- Lines have no two lists of words. -/
lemma HasTokens.unique {others : List (List Char)} (h : HasTokens lines tokens)
    (h' : HasTokens lines others) : tokens = others := by
  obtain ⟨texts, rfl, rfl⟩ := hasTokens_iff.1 h
  obtain ⟨texts', heq, rfl⟩ := hasTokens_iff.1 h'
  rw [List.map_injective_iff.2 Text.utf8_injective heq]

/-- The numbers that are read are those that the words are. -/
lemma readNumbers_eq_ok_iff_areNumbers {v : Vector α count} :
    readNumbers block read? count lines = .ok v ↔
      ∃ tokens, HasTokens lines tokens ∧ AreNumbers read? tokens v.toList := by
  constructor
  · intro hread
    obtain ⟨texts, htexts, hnumbers⟩ := readNumbers_eq_ok_iff.1 hread
    have hlines : texts.map Text.utf8 = lines :=
      (forall₂_iff_map_eq (f := Text.utf8) fun _ _ => Text.decode?_eq_some_iff).1 htexts.flip
    exact ⟨texts.flatMap Text.words, hasTokens_iff.2 ⟨texts, hlines, rfl⟩, hnumbers⟩
  · rintro ⟨tokens, htokens, hnumbers⟩
    obtain ⟨texts, rfl, rfl⟩ := hasTokens_iff.1 htokens
    exact readNumbers_utf8_eq_ok_iff.2 hnumbers

/-- Words are those of some numbers if each is a number. -/
lemma exists_areNumbers_iff :
    (∃ numbers, AreNumbers read? tokens numbers) ↔ ∀ token ∈ tokens, (read? token).isSome := by
  constructor
  · rintro ⟨numbers, hnumbers⟩ token htoken
    obtain ⟨x, -, hx⟩ := exists_mem_of_forall₂ hnumbers.flip htoken
    exact Option.isSome_iff_exists.2 ⟨x, hx⟩
  · intro hvalid
    induction tokens with
    | nil => exact ⟨[], .nil⟩
    | cons token later ih =>
        rw [List.forall_mem_cons] at hvalid
        obtain ⟨x, hx⟩ := Option.isSome_iff_exists.1 hvalid.1
        obtain ⟨numbers, hnumbers⟩ := ih hvalid.2
        exact ⟨x :: numbers, .cons hx hnumbers⟩

/-- A block of numbers is read where its words are as many as it has and all are numbers. -/
lemma exists_readNumbers_iff :
    (∃ v, readNumbers block read? count lines = .ok v) ↔
      ∃ tokens, HoldsNumbers read? lines tokens ∧ tokens.length = count := by
  simp only [readNumbers_eq_ok_iff_areNumbers]
  constructor
  · rintro ⟨v, tokens, htokens, hnumbers⟩
    refine ⟨tokens, ⟨htokens, exists_areNumbers_iff.1 ⟨_, hnumbers⟩⟩, ?_⟩
    rw [hnumbers.length_eq, Vector.length_toList]
  · rintro ⟨tokens, ⟨htokens, hvalid⟩, rfl⟩
    obtain ⟨numbers, hnumbers⟩ := exists_areNumbers_iff.2 hvalid
    exact ⟨⟨numbers.toArray, hnumbers.length_eq.symm⟩, tokens, htokens, hnumbers⟩

lemma areNumbers_of_readNumbers {v : Vector α count}
    (hread : readNumbers block read? count lines = .ok v) (htokens : HasTokens lines tokens) :
    AreNumbers read? tokens v.toList := by
  obtain ⟨others, hothers, hnumbers⟩ := readNumbers_eq_ok_iff_areNumbers.1 hread
  rwa [htokens.unique hothers]

end Numbers

/-! ### Files of the grammar -/

/-- A number of samples that the words of the integers promise: the tenth of them, or none if it
is null. -/
def PromisesSamples (integers : List (List Char)) (count : ℕ) : Prop :=
  ∃ token npts, integers[9]? = some token ∧ readInteger token = some npts ∧
    (npts = nullInteger ∧ count = 0 ∨ npts.toInt = count)

/-- Lines of a header with these words for its real numbers and its integers. -/
structure IsHeader (lines : List (List UInt8)) (reals integers : List (List Char)) : Prop where
  enough : 30 ≤ lines.length
  realCount : reals.length = 70
  reals : HoldsNumbers readReal (lines.take 14) reals
  integerCount : integers.length = 40
  integers : HoldsNumbers readInteger ((lines.drop 14).take 8) integers
  narrow : ∀ line ∈ (lines.drop 22).take 8, line.length ≤ 24

/-- Lines with as many samples after the header as the words of the integers promise. -/
structure IsSampled (lines : List (List UInt8)) (integers samples : List (List Char)) : Prop where
  promised : PromisesSamples integers samples.length
  samples : HoldsNumbers readReal (lines.drop 30) samples

/-- The header that lines with these words hold: the numbers that the words are, and in each
text slot eight bytes of a line, where a blank stands for one that the line does not have. -/
structure HoldsHeader (lines : List (List UInt8)) (reals integers : List (List Char))
    (h : Header) : Prop where
  reals : AreNumbers readReal reals h.reals.toList
  integers : AreNumbers readInteger integers h.integers.toList
  text : ∀ r < 8, ∀ c < 3, ∀ k < 8, ∃ row, lines[22 + r]? = some row ∧
    h.text[8 * (3 * r + c) + k]? = some ((row[8 * c + k]?).getD blankByte)

section Files

variable {data : List UInt8} {lines : List (List UInt8)} {reals integers samples : List (List Char)}
  {h : Header} {n : ℕ}

lemma lineCounts_eq :
    realLines = 14 ∧ integerLines = 8 ∧ textLines = 8 ∧ textLineWidth = 24 ∧ headerLines = 30 := by
  decide

lemma exists_readText_iff :
    (∃ text, readText lines = .ok text) ↔ ∀ line ∈ lines, line.length ≤ 24 := by
  simp [readText_eq_ok_iff, lineCounts_eq]

/-- A header is read from its lines. -/
lemma exists_readHeader_iff :
    (∃ h, readHeader lines = .ok h) ↔ ∃ reals integers, IsHeader lines reals integers := by
  obtain ⟨hr, hi, ht, -, hlines⟩ := lineCounts_eq
  simp only [readHeader_eq_ok_iff, hr, hi, ht, hlines]
  constructor
  · rintro ⟨h, henough, hreals, hintegers, htext⟩
    obtain ⟨reals, hreals, hrealCount⟩ := exists_readNumbers_iff.1 ⟨_, hreals⟩
    obtain ⟨integers, hintegers, hintegerCount⟩ := exists_readNumbers_iff.1 ⟨_, hintegers⟩
    exact ⟨reals, integers, henough, hrealCount, hreals, hintegerCount, hintegers,
      exists_readText_iff.1 ⟨_, htext⟩⟩
  · rintro ⟨reals, integers, henough, hrealCount, hreals, hintegerCount, hintegers, hnarrow⟩
    obtain ⟨reals, hreals⟩ := exists_readNumbers_iff.2 ⟨reals, hreals, hrealCount⟩
    obtain ⟨integers, hintegers⟩ :=
      exists_readNumbers_iff.2 ⟨integers, hintegers, hintegerCount⟩
    obtain ⟨text, htext⟩ := exists_readText_iff.2 hnarrow
    exact ⟨⟨reals, integers, text⟩, henough, hreals, hintegers, htext⟩

/-- The header that is read is the one that the lines hold. -/
lemma holdsHeader_of_readHeader (hread : readHeader lines = .ok h)
    (hheader : IsHeader lines reals integers) : HoldsHeader lines reals integers h := by
  obtain ⟨hr, hi, ht, hw, hlines⟩ := lineCounts_eq
  simp only [readHeader_eq_ok_iff, hr, hi, ht, hlines] at hread
  obtain ⟨henough, hreals, hintegers, htext⟩ := hread
  refine ⟨areNumbers_of_readNumbers hreals hheader.reals.found,
    areNumbers_of_readNumbers hintegers hheader.integers.found, ?_⟩
  intro r hrow c hslot k hbyte
  -- the byte stands in line `r` of the text at place `8 * c + k`
  have hline : 22 + r < lines.length := by omega
  have hplace : (8 * (3 * r + c) + k) / 24 = r ∧ (8 * (3 * r + c) + k) % 24 = 8 * c + k := by
    omega
  refine ⟨lines[22 + r], List.getElem?_eq_getElem hline, ?_⟩
  rw [(readText_eq_ok_iff.1 htext).2, Vector.getElem?_ofFn, dif_pos (by omega), textByte, hw,
    hplace.1, hplace.2, List.getElem?_take_of_lt hrow, List.getElem?_drop,
    List.getElem?_eq_getElem hline, Option.getD_some]

/-- The samples that a header promises are those that its words promise. -/
lemma promisesSamples_iff (hintegers : AreNumbers readInteger integers h.integers.toList) :
    PromisesSamples integers n ↔ h.sampleCount = .ok n := by
  have hlength : integers.length = 40 := by rw [hintegers.length_eq, Vector.length_toList]
  have hnpts : readInteger integers[9] = some (h.storedInteger Header.countSlot) :=
    hintegers.get (by omega) (by simp)
  rw [PromisesSamples, Header.sampleCount_eq_ok_iff_stored]
  constructor
  · rintro ⟨token, npts, htoken, hread, hn⟩
    obtain ⟨_, rfl⟩ := List.getElem?_eq_some_iff.1 htoken
    obtain rfl := Option.some.inj (hnpts.symm.trans hread)
    exact hn
  · intro hn
    exact ⟨_, _, List.getElem?_eq_getElem (by omega), hnpts, hn⟩

/-- Samples are read from the lines after the header. -/
lemma exists_readSamples_iff (hintegers : AreNumbers readInteger integers h.integers.toList) :
    (∃ (n : ℕ) (v : Vector Single n), h.sampleCount = .ok n ∧
        readNumbers .samples readReal n (lines.drop 30) = .ok v) ↔
      ∃ samples, IsSampled lines integers samples := by
  constructor
  · rintro ⟨n, v, hcount, hread⟩
    obtain ⟨samples, hsamples, rfl⟩ := exists_readNumbers_iff.1 ⟨v, hread⟩
    exact ⟨samples, (promisesSamples_iff hintegers).2 hcount, hsamples⟩
  · rintro ⟨samples, hpromised, hsamples⟩
    obtain ⟨v, hread⟩ := exists_readNumbers_iff.2 ⟨samples, hsamples, rfl⟩
    exact ⟨samples.length, v, (promisesSamples_iff hintegers).1 hpromised, hread⟩

/-- A file is read where its lines are those of a header and, unless nothing else is asked for, of
samples. -/
lemma exists_decode_iff {headerOnly : Bool} :
    (∃ answer, decode data headerOnly = .ok answer) ↔
      ∃ reals integers, IsHeader (linesOf data) reals integers ∧
        (headerOnly = false → ∃ samples, IsSampled (linesOf data) integers samples) := by
  cases headerOnly with
  | true =>
      simp only [Prod.exists, decode_headerOnly_eq_ok_iff, exists_and_left, exists_eq, and_true,
        exists_readHeader_iff, Bool.true_eq_false, false_implies]
  | false =>
      simp only [Prod.exists, decode_eq_ok_iff, forall_const]
      constructor
      · rintro ⟨h, -, hread, n, v, hcount, hsamples, -⟩
        obtain ⟨reals, integers, hheader⟩ := exists_readHeader_iff.1 ⟨h, hread⟩
        have hholds := holdsHeader_of_readHeader hread hheader
        exact ⟨reals, integers, hheader,
          (exists_readSamples_iff hholds.integers).1 ⟨n, v, hcount, hsamples⟩⟩
      · rintro ⟨reals, integers, hheader, hsampled⟩
        obtain ⟨h, hread⟩ := exists_readHeader_iff.2 ⟨reals, integers, hheader⟩
        have hholds := holdsHeader_of_readHeader hread hheader
        obtain ⟨n, v, hcount, hsamples⟩ := (exists_readSamples_iff hholds.integers).2 hsampled
        exact ⟨h, _, hread, n, v, hcount, hsamples, rfl⟩

/-- What is read is what the lines hold. -/
lemma holds_of_decode {headerOnly : Bool} {found : Option (List Single)}
    (hread : decode data headerOnly = .ok (h, found))
    (hheader : IsHeader (linesOf data) reals integers) :
    HoldsHeader (linesOf data) reals integers h ∧ (headerOnly = true → found = none) ∧
      (headerOnly = false → ∀ samples, IsSampled (linesOf data) integers samples →
        ∃ numbers, found = some numbers ∧ AreNumbers readReal samples numbers) := by
  cases headerOnly with
  | true =>
      obtain ⟨hfirst, rfl⟩ := decode_headerOnly_eq_ok_iff.1 hread
      exact ⟨holdsHeader_of_readHeader hfirst hheader, fun _ => rfl, nofun⟩
  | false =>
      obtain ⟨hfirst, n, v, -, hsamples, rfl⟩ := decode_eq_ok_iff.1 hread
      refine ⟨holdsHeader_of_readHeader hfirst hheader, nofun, ?_⟩
      intro _ samples hsampled
      exact ⟨v.toList, rfl, areNumbers_of_readNumbers hsamples hsampled.samples.found⟩

end Files

/-! ### Files that are refused -/

/-- An answer that is no failure but for a fault of the text. -/
def OnlyMalformed {α : Type} (answer : Except Error α) : Prop :=
  ∀ e, answer = .error e → ∃ fault, e = .malformedText fault

section Failures

variable {α β : Type} {block : NumberBlock} {read? : List Char → Option α} {count : ℕ}

lemma onlyMalformed_ok (a : α) : OnlyMalformed (.ok a) := by
  intro e he
  cases he

lemma onlyMalformed_malformed (fault : TextFault) : OnlyMalformed (α := α) (malformed fault) := by
  intro e he
  exact ⟨fault, (Except.error.inj he).symm⟩

lemma OnlyMalformed.bind {answer : Except Error α} {f : α → Except Error β}
    (hfirst : OnlyMalformed answer) (hlater : ∀ a, OnlyMalformed (f a)) :
    OnlyMalformed (answer >>= f) := by
  intro e he
  rcases bind_eq_error_iff.1 he with he | ⟨a, -, he⟩
  · exact hfirst e he
  · exact hlater a e he

lemma OnlyMalformed.mapM {f : α → Except Error β} (hf : ∀ a, OnlyMalformed (f a)) (xs : List α) :
    OnlyMalformed (xs.mapM f) := by
  induction xs with
  | nil => exact onlyMalformed_ok []
  | cons x xs ih =>
      rw [List.mapM_cons]
      exact (hf x).bind fun y => ih.bind fun ys => onlyMalformed_ok (y :: ys)

lemma onlyMalformed_readNumbers (lines : List (List UInt8)) :
    OnlyMalformed (readNumbers block read? count lines) := by
  have hword (word : List Char) : OnlyMalformed (readWord block read? word) := by
    rw [readWord]
    split
    · exact onlyMalformed_ok _
    · exact onlyMalformed_malformed _
  have hline (line : List UInt8) : OnlyMalformed (readLine block read? line) := by
    rw [readLine]
    split
    · exact .mapM hword _
    · exact onlyMalformed_malformed _
  rw [readNumbers]
  refine (OnlyMalformed.mapM hline lines).bind fun numbers => ?_
  dsimp only
  split
  · exact onlyMalformed_ok _
  · exact onlyMalformed_malformed _

lemma onlyMalformed_readText (lines : List (List UInt8)) : OnlyMalformed (readText lines) := by
  have hline (line : List UInt8 × ℕ) : OnlyMalformed (readTextLine line) := by
    rw [readTextLine]
    split
    · exact onlyMalformed_ok _
    · exact onlyMalformed_malformed _
  rw [readText]
  exact (OnlyMalformed.mapM hline _).bind fun bytes => onlyMalformed_ok _

lemma onlyMalformed_readHeader (lines : List (List UInt8)) : OnlyMalformed (readHeader lines) := by
  rw [readHeader]
  split
  · exact onlyMalformed_malformed _
  · refine (onlyMalformed_readNumbers _).bind fun reals => ?_
    refine (onlyMalformed_readNumbers _).bind fun integers => ?_
    exact (onlyMalformed_readText _).bind fun text => onlyMalformed_ok _

lemma onlyMalformed_sampleCount (h : Header) : OnlyMalformed (sampleCount h) := by
  rw [sampleCount, Header.sampleCount]
  rcases h.integer? Header.countSlot with _ | npts
  · exact onlyMalformed_ok 0
  · by_cases hnegative : npts < 0
    · simp only [if_pos hnegative]
      exact onlyMalformed_malformed _
    · simp only [if_neg hnegative]
      exact onlyMalformed_ok _

/-- Where a file is not read, the fault is one of its text. -/
lemma onlyMalformed_decode (data : List UInt8) (headerOnly : Bool) :
    OnlyMalformed (decode data headerOnly) := by
  refine (onlyMalformed_readHeader _).bind fun h => ?_
  split
  · exact onlyMalformed_ok _
  · refine (onlyMalformed_sampleCount h).bind fun n => ?_
    exact (onlyMalformed_readNumbers _).bind fun v => onlyMalformed_ok _

lemma decode_of_short {data : List UInt8} {headerOnly : Bool}
    (hshort : (linesOf data).length < 30) :
    decode data headerOnly =
      .error (.malformedText (.headerLines 30 (linesOf data).length)) := by
  have hread : readHeader (linesOf data) =
      .error (.malformedText (.headerLines 30 (linesOf data).length)) := by
    rw [readHeader]
    exact if_pos hshort
  rw [decode]
  simp only [hread, error_bind]

end Failures

/-! ### The files that are read -/

/-- The files that are read are those of the grammar.  What is read is what the lines hold, and
every failure is a fault of the text. -/
theorem decode_grammar (data : List UInt8) (headerOnly : Bool) :
    (∃! lines, HasLines data lines) ∧ ∀ lines, HasLines data lines →
      ((∃ answer, decode data headerOnly = .ok answer) ↔
        ∃ reals integers, IsHeader lines reals integers ∧
          (headerOnly = false → ∃ samples, IsSampled lines integers samples)) ∧
      (∀ h found, decode data headerOnly = .ok (h, found) →
        ∀ reals integers, IsHeader lines reals integers →
          HoldsHeader lines reals integers h ∧ (headerOnly = true → found = none) ∧
            (headerOnly = false → ∀ samples, IsSampled lines integers samples →
              ∃ numbers, found = some numbers ∧ AreNumbers readReal samples numbers)) ∧
      (∀ e, decode data headerOnly = .error e → ∃ fault, e = .malformedText fault) ∧
      (lines.length < 30 →
        decode data headerOnly = .error (.malformedText (.headerLines 30 lines.length))) := by
  refine ⟨⟨linesOf data, hasLines_iff.2 rfl, fun lines h => (hasLines_iff.1 h).symm⟩, ?_⟩
  intro lines hlines
  obtain rfl := hasLines_iff.1 hlines
  refine ⟨exists_decode_iff, ?_, onlyMalformed_decode data headerOnly, decode_of_short⟩
  intro h found hread reals integers hheader
  exact holds_of_decode hread hheader

/-- The lines of a header of zeros that promises one sample, and this sample; each of them ends
with a blank. -/
def oneSampleTexts : List (List Char) :=
  List.replicate 15 "0 0 0 0 0 ".toList ++ ["0 0 0 0 1 ".toList] ++
    List.replicate 6 "0 0 0 0 0 ".toList ++ List.replicate 8 [' '] ++ ["1 ".toList]

/-- The words of its integers. -/
def oneSampleIntegers : List (List Char) :=
  List.replicate 9 ['0'] ++ [['1']] ++ List.replicate 30 ['0']

/-- The file with these lines. -/
def oneSampleFile : List UInt8 := joinLines (oneSampleTexts.map Text.utf8)

lemma hasLines_oneSample : HasLines oneSampleFile (oneSampleTexts.map Text.utf8) := by
  rw [hasLines_iff]
  rfl

lemma isHeader_oneSample :
    IsHeader (oneSampleTexts.map Text.utf8) (List.replicate 70 ['0']) oneSampleIntegers := by
  have hzero : (readReal ['0']).isSome := rfl
  refine ⟨by decide, rfl, ⟨?_, ?_⟩, rfl, ⟨?_, by decide⟩, by decide⟩
  · exact hasTokens_iff.2 ⟨oneSampleTexts.take 14, List.map_take, rfl⟩
  · intro token htoken
    rwa [List.eq_of_mem_replicate htoken]
  · refine hasTokens_iff.2 ⟨(oneSampleTexts.drop 14).take 8, ?_, rfl⟩
    rw [List.map_take, List.map_drop]

lemma readReal_one : readReal ['1'] = some ⟨0x3F800000⟩ := by
  decide +kernel

lemma isSampled_oneSample :
    IsSampled (oneSampleTexts.map Text.utf8) oneSampleIntegers [['1']] := by
  refine ⟨⟨['1'], 1, rfl, rfl, Or.inr rfl⟩, ⟨?_, ?_⟩⟩
  · exact hasTokens_iff.2 ⟨oneSampleTexts.drop 30, List.map_drop, rfl⟩
  · intro token htoken
    rw [List.mem_singleton.1 htoken, readReal_one]
    rfl

theorem decode_grammar_oneSample :
    ∃ h, decode oneSampleFile false = .ok (h, some [⟨0x3F800000⟩]) := by
  obtain ⟨-, hgrammar⟩ := decode_grammar oneSampleFile false
  obtain ⟨haccepted, hcontent, -⟩ := hgrammar _ hasLines_oneSample
  obtain ⟨⟨h, found⟩, hread⟩ :=
    haccepted.2 ⟨_, _, isHeader_oneSample, fun _ => ⟨_, isSampled_oneSample⟩⟩
  obtain ⟨-, -, hsamples⟩ := hcontent h found hread _ _ isHeader_oneSample
  obtain ⟨numbers, rfl, hnumbers⟩ := hsamples rfl _ isSampled_oneSample
  obtain ⟨x, later, hx, hlater, rfl⟩ := List.forall₂_cons_left_iff.1 hnumbers
  obtain rfl := List.forall₂_nil_left_iff.1 hlater
  rw [readReal_one, Option.some.injEq] at hx
  exact ⟨h, hx ▸ hread⟩

end Seismogram.Alphanumeric
