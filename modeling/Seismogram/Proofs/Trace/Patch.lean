/-
# Headers patched into files

A patch puts the header of a trace into a file, except for the fields that describe samples.
What that does to the bytes is `Patched`, and which files it can be done to is `Patchable`.
The main results are

* `write_headerOnly`: writing only the header patches a file that can be patched, and in
  every other case fails and leaves all files as they are;
* `read_patched_iff`: a file that was read is still read after a patch, with the same
  samples, exactly if the trace has the version that is read.

The version is not among the fields that are kept.  Hence a patch can make a file unreadable
(`read_patched_versionSeven`).
-/
import Mathlib.Tactic.Common
import Seismogram.Proofs.Trace.Encoding
import Seismogram.Proofs.Trace.Folder

namespace Seismogram

open Seismogram.Number Seismogram.Outcome

namespace Folder

variable {h stored : Header} {content new : List UInt8} {o : ByteOrder}

/-! ### The fields that are kept -/

lemma storedReal_foldl_copyReal_of_notMem {slots : List (Fin 70)} {slot : Fin 70}
    (hslot : slot ∉ slots) :
    (slots.foldl (fun h slot => h.copyReal stored slot) h).storedReal slot = h.storedReal slot := by
  induction slots generalizing h with
  | nil => rfl
  | cons first slots ih =>
      rw [List.mem_cons, not_or] at hslot
      rw [List.foldl_cons, ih hslot.2, Header.storedReal_copyReal, if_neg (Ne.symm hslot.1)]

lemma storedReal_foldl_copyReal_of_mem {slots : List (Fin 70)} {slot : Fin 70}
    (hslot : slot ∈ slots) :
    (slots.foldl (fun h slot => h.copyReal stored slot) h).storedReal slot
      = stored.storedReal slot := by
  induction slots generalizing h with
  | nil => exact absurd hslot (List.not_mem_nil)
  | cons first slots ih =>
      rw [List.foldl_cons]
      by_cases hlater : slot ∈ slots
      · exact ih hlater
      · -- nothing that is copied later goes to this slot
        obtain rfl := (List.mem_cons.1 hslot).resolve_right hlater
        rw [storedReal_foldl_copyReal_of_notMem hlater, Header.storedReal_copyReal, if_pos rfl]

lemma integers_foldl_copyReal (slots : List (Fin 70)) :
    (slots.foldl (fun h slot => h.copyReal stored slot) h).integers = h.integers := by
  induction slots generalizing h with
  | nil => rfl
  | cons first slots ih =>
      rw [List.foldl_cons, ih, Header.integers_copyReal]

lemma text_foldl_copyReal (slots : List (Fin 70)) :
    (slots.foldl (fun h slot => h.copyReal stored slot) h).text = h.text := by
  induction slots generalizing h with
  | nil => rfl
  | cons first slots ih =>
      rw [List.foldl_cons, ih, Header.text_copyReal]

lemma storedReal_keepSampleFields_of_mem {slot : Fin 70} (hslot : slot ∈ sampleSlots) :
    (keepSampleFields h stored).storedReal slot = stored.storedReal slot := by
  rw [keepSampleFields, Header.storedReal_copyInteger, storedReal_foldl_copyReal_of_mem hslot]

lemma storedReal_keepSampleFields_of_notMem {slot : Fin 70} (hslot : slot ∉ sampleSlots) :
    (keepSampleFields h stored).storedReal slot = h.storedReal slot := by
  rw [keepSampleFields, Header.storedReal_copyInteger, storedReal_foldl_copyReal_of_notMem hslot]

lemma storedInteger_keepSampleFields (slot : Fin 40) :
    (keepSampleFields h stored).storedInteger slot =
      if Header.countSlot = slot then stored.storedInteger slot else h.storedInteger slot := by
  rw [keepSampleFields, Header.storedInteger_copyInteger,
    Header.storedInteger_congr (integers_foldl_copyReal sampleSlots)]

lemma text_keepSampleFields : (keepSampleFields h stored).text = h.text := by
  rw [keepSampleFields, Header.text_copyInteger, text_foldl_copyReal]

/-! ### The bytes of a patched file -/

/-- The byte with number `i` lies in a word that describes samples.  Of the words of a header
these are, from 0: 1 `depmin`, 2 `depmax`, 6 `e`, 56 `depmen` and 79 `npts`. -/
def InKeptWord (i : Nat) : Prop := ∃ word ∈ [1, 2, 6, 56, 79], ByteOrder.InWord (4 * word) i

/-- The first four of them are the real numbers that are copied, the last one is an integer. -/
lemma inKeptWord_iff {i : Nat} :
    InKeptWord i ↔ (∃ slot ∈ sampleSlots, ByteOrder.InWord (4 * slot.val) i) ∨
      ByteOrder.InWord (Binary.realBlockSize + 4 * Header.countSlot.val) i := by
  have hslots : sampleSlots = [1, 2, 56, 6] := rfl
  have hcount : Binary.realBlockSize + 4 * Header.countSlot.val = 4 * 79 := rfl
  rw [InKeptWord, hslots, hcount]
  simp only [List.mem_cons, List.not_mem_nil, or_false, exists_eq_or_imp, exists_eq_left]
  tauto

/-- A file that was patched with a header in an order. -/
structure Patched (o : ByteOrder) (h : Header) (content new : List UInt8) : Prop where
  length : new.length = content.length
  rest : new.drop Binary.headerSize = content.drop Binary.headerSize
  kept : ∀ i, InKeptWord i → new[i]? = content[i]?
  replaced : ∀ i < Binary.headerSize, ¬ InKeptWord i → new[i]? = (Binary.encodeHeader o h)[i]?

lemma InKeptWord.lt {i : Nat} (hi : InKeptWord i) :
    i < Binary.realBlockSize + Binary.integerBlockSize := by
  rcases inKeptWord_iff.1 hi with ⟨slot, -, hi⟩ | hi
  · exact Nat.lt_of_lt_of_le (Binary.lt_of_inWord hi) (Nat.le_add_right _ _)
  · exact Nat.lt_of_lt_of_le hi.2 (by decide)

/-- What a patch makes of a file. -/
def patched (o : ByteOrder) (h : Header) (content : List UInt8) : List UInt8 :=
  Binary.encodeHeader o (keepSampleFields h (Binary.readHeader o content))
    ++ content.drop Binary.headerSize

lemma getElem?_patched {i : Nat} (hi : i < Binary.headerSize) :
    (patched o h content)[i]?
      = (Binary.encodeHeader o (keepSampleFields h (Binary.readHeader o content)))[i]? := by
  rw [patched, List.getElem?_append_left (by rwa [Binary.length_encodeHeader])]

lemma patched_spec (hlen : Binary.headerSize ≤ content.length) :
    Patched o h content (patched o h content) where
  length := by
    rw [patched, List.length_append, Binary.length_encodeHeader, List.length_drop]
    omega
  rest := by
    rw [patched, ← Binary.length_encodeHeader o (keepSampleFields h (Binary.readHeader o content)),
      List.drop_left]
  kept i hi := by
    have hlt : i < Binary.headerSize := Nat.lt_of_lt_of_le hi.lt (Nat.le_add_right _ _)
    have hword : (Binary.encodeHeader o (keepSampleFields h (Binary.readHeader o content)))[i]?
        = (Binary.encodeHeader o (Binary.readHeader o content))[i]? := by
      refine Binary.getElem?_encodeHeader_congr o (fun slot hslot => ?_) (fun slot hslot => ?_)
        fun htext => absurd hi.lt (Nat.not_lt_of_le htext)
      · rcases inKeptWord_iff.1 hi with ⟨kept, hmem, hkept⟩ | hkept
        · have heq : slot = kept :=
            ByteOrder.eq_of_inWord 0 (by rwa [Nat.zero_add]) (by rwa [Nat.zero_add])
          rw [storedReal_keepSampleFields_of_mem (by rwa [heq])]
        · -- the count is an integer, and the byte lies in a real number
          have hreal := Binary.lt_of_inWord hslot
          exact absurd hreal (Nat.not_lt_of_le (Nat.le_of_add_right_le hkept.1))
      · rcases inKeptWord_iff.1 hi with ⟨kept, -, hkept⟩ | hkept
        · -- the field that is kept is a real number, and the byte lies in an integer
          have hreal := Binary.lt_of_inWord hkept
          exact absurd hreal (Nat.not_lt_of_le (Nat.le_of_add_right_le hslot.1))
        · rw [storedInteger_keepSampleFields, if_pos (ByteOrder.eq_of_inWord _ hkept hslot)]
    rw [getElem?_patched hlt, hword, Binary.encodeHeader_readHeader o hlen,
      List.getElem?_take_of_lt hlt]
  replaced i hlt hi := by
    rw [getElem?_patched hlt]
    refine Binary.getElem?_encodeHeader_congr o (fun slot hslot => ?_) (fun slot hslot => ?_)
      fun _ => text_keepSampleFields
    · exact storedReal_keepSampleFields_of_notMem fun hmem =>
        hi (inKeptWord_iff.2 (Or.inl ⟨slot, hmem, hslot⟩))
    · rw [storedInteger_keepSampleFields, if_neg]
      rintro rfl
      exact hi (inKeptWord_iff.2 (Or.inr hslot))

/-! ### The files that can be patched -/

/-- A file whose header can be patched, and the order in which that is done: the one that is
asked for, or else the one that is found out. -/
structure Patchable (content : List UInt8) (asked : Option ByteOrder) (o : ByteOrder) : Prop where
  length : Binary.headerSize ≤ content.length
  order : (asked = some o ∧ Binary.isValidOrder content o = true) ∨
    (asked = none ∧ Binary.detectOrder content = .ok o)

lemma patchable_iff {asked : Option ByteOrder} :
    Patchable content asked o ↔ Binary.headerSize ≤ content.length ∧
      Binary.isValidOrder content o = true ∧ (asked = none ∨ asked = some o) := by
  constructor
  · rintro ⟨hlen, ⟨hasked, hvalid⟩ | ⟨hasked, hfound⟩⟩
    · exact ⟨hlen, hvalid, Or.inr hasked⟩
    · exact ⟨hlen, ((Binary.detectOrder_eq_ok_iff o).1 hfound).2, Or.inl hasked⟩
  · rintro ⟨hlen, hvalid, hasked | hasked⟩
    · exact ⟨hlen, Or.inr ⟨hasked, (Binary.detectOrder_eq_ok_iff o).2 ⟨hlen, hvalid⟩⟩⟩
    · exact ⟨hlen, Or.inl ⟨hasked, hvalid⟩⟩

/-- A file is patched in the order in which its version is valid, unless the other order is
asked for. -/
lemma patch_eq_ok_iff {asked : Option ByteOrder} :
    patch content h asked = .ok new ↔
      ∃ o, Patchable content asked o ∧ new = patched o h content := by
  simp only [patch, bind_eq_ok_iff, Prod.exists, Binary.decodeHeader_eq_ok_iff, Except.ok.injEq,
    Binary.isValidOrder_take, Binary.readHeader_take, List.length_take, Nat.le_min, Nat.le_refl,
    true_and, patchable_iff]
  constructor
  · rintro ⟨stored, o, ⟨hlen, hvalid, hasked, rfl⟩, rfl⟩
    exact ⟨o, ⟨hlen, hvalid, hasked⟩, rfl⟩
  · rintro ⟨o, ⟨hlen, hvalid, hasked⟩, rfl⟩
    exact ⟨_, o, ⟨hlen, hvalid, hasked, rfl⟩, rfl⟩

end Folder

/-! ### Patching -/

namespace FileEdit

variable {path : String} {asked : Option ByteOrder} {s s' : Desk} {e : Error}

lemma patchHeader_eq_ok_iff {u : Unit} :
    patchHeader path asked s = .ok u s' ↔
      ∃ h name content new, s.trace.header.updateDistances false = .ok h ∧
        s.folder.locate path = .file name content ∧ Folder.patch content h asked = .ok new ∧
        s' = ⟨{ s.trace with header := h }, s.folder.put name new⟩ := by
  simp only [patchHeader, run_eq_ok_iff, ofEdit_eq_ok_iff, ask_eq_ok_iff, replaceFolder_eq_ok_iff,
    Edit.updateDistances_eq_ok_iff, Except.ok.injEq]
  constructor
  · rintro ⟨_, _, ⟨_, ⟨h, hupdate, rfl⟩, rfl⟩, ⟨name, content⟩, _, ⟨hat, rfl⟩, new, _, ⟨hpatch, rfl⟩,
      _, rfl, rfl⟩
    exact ⟨h, name, content, new, hupdate, Folder.fileAt_eq_ok_iff.1 hat, hpatch, rfl⟩
  · rintro ⟨h, name, content, new, hupdate, hat, hpatch, rfl⟩
    exact ⟨(), _, ⟨_, ⟨h, hupdate, rfl⟩, rfl⟩, (name, content), _,
      ⟨Folder.fileAt_eq_ok_iff.2 hat, rfl⟩, new, _, ⟨hpatch, rfl⟩, _, rfl, rfl⟩

/-- A patch that fails leaves every file, and fails before or after the distances were
brought up to date. -/
lemma patchHeader_eq_error_iff :
    patchHeader path asked s = .error e s' ↔
      (s.trace.header.updateDistances false = .error e ∧ s' = s) ∨
        ∃ h, s.trace.header.updateDistances false = .ok h ∧
          s' = { s with trace := { s.trace with header := h } } ∧
          (s.folder.fileAt path = .error e ∨ ∃ name content,
            s.folder.locate path = .file name content ∧ Folder.patch content h asked = .error e) := by
  simp only [patchHeader, run_eq_error_iff, ofEdit_eq_ok_iff, ofEdit_eq_error_iff, ask_eq_ok_iff,
    ask_eq_error_iff, replaceFolder_eq_error_iff, Edit.updateDistances_eq_ok_iff,
    Edit.updateDistances_eq_error_iff, reduceCtorEq, false_and, and_false, exists_false, or_false]
  constructor
  · rintro (⟨_, ⟨hupdate, rfl⟩, rfl⟩ | ⟨_, _, ⟨_, ⟨h, hupdate, rfl⟩, rfl⟩, ⟨hat, rfl⟩ |
      ⟨⟨name, content⟩, _, ⟨hat, rfl⟩, hpatch, rfl⟩⟩)
    · exact Or.inl ⟨hupdate, rfl⟩
    · exact Or.inr ⟨h, hupdate, rfl, Or.inl hat⟩
    · exact Or.inr ⟨h, hupdate, rfl, Or.inr ⟨name, content, Folder.fileAt_eq_ok_iff.1 hat, hpatch⟩⟩
  · rintro (⟨hupdate, rfl⟩ | ⟨h, hupdate, rfl, hat | ⟨name, content, hat, hpatch⟩⟩)
    · exact Or.inl ⟨_, ⟨hupdate, rfl⟩, rfl⟩
    · exact Or.inr ⟨(), _, ⟨_, ⟨h, hupdate, rfl⟩, rfl⟩, Or.inl ⟨hat, rfl⟩⟩
    · exact Or.inr ⟨(), _, ⟨_, ⟨h, hupdate, rfl⟩, rfl⟩,
        Or.inr ⟨(name, content), _, ⟨Folder.fileAt_eq_ok_iff.2 hat, rfl⟩, hpatch, rfl⟩⟩

/-- A patch that fails leaves every file as it is. -/
lemma folder_of_patchHeader_error (h : patchHeader path asked s = .error e s') :
    s'.folder = s.folder := by
  rcases patchHeader_eq_error_iff.1 h with ⟨-, rfl⟩ | ⟨_, -, rfl, -⟩
  · rfl
  · rfl

/-- A patch changes nothing in a trace but what follows from its coordinates. -/
lemma trace_of_patchHeader
    (h : patchHeader path asked s = .ok () s' ∨ ∃ e, patchHeader path asked s = .error e s') :
    Header.EqExceptDistances s.trace.header s'.trace.header ∧
      s'.trace.samples = s.trace.samples ∧ s'.trace.order = s.trace.order := by
  rcases h with hok | ⟨e, herror⟩
  · obtain ⟨_, _, _, _, hupdate, -, -, rfl⟩ := patchHeader_eq_ok_iff.1 hok
    exact ⟨Header.eqExceptDistances_of_update hupdate, rfl, rfl⟩
  · rcases patchHeader_eq_error_iff.1 herror with ⟨-, rfl⟩ | ⟨_, hupdate, rfl, -⟩
    · exact ⟨Header.EqExceptDistances.refl _, rfl, rfl⟩
    · exact ⟨Header.eqExceptDistances_of_update hupdate, rfl, rfl⟩

/-- Writing only the header patches the file at the path, or else fails and leaves every file
as it is. -/
theorem write_headerOnly (path : String) (asked : Option ByteOrder) (t : Trace) (d : Folder) :
    let run := write path { order := asked, headerOnly := true } ⟨t, d⟩
    (∀ h name content o, t.header.updateDistances false = .ok h →
      d.locate path = .file name content → Folder.Patchable content asked o →
      ∃ d' new, run = .ok () ⟨{ t with header := h }, d'⟩ ∧ d'.locate path = .file name new ∧
        Folder.Patched o h content new ∧ ∀ other ≠ name, d'.find? other = d.find? other) ∧
    ((¬ ∃ h name content o, t.header.updateDistances false = .ok h ∧
      d.locate path = .file name content ∧ Folder.Patchable content asked o) →
      ∃ e t', run = .error e ⟨t', d⟩) ∧
    (∀ h, t.header.updateDistances false = .ok h →
      (d.locate path = .nowhere ∨ ∃ name, d.locate path = .vacant name) →
      run = .error (.fileNotFound path) ⟨{ t with header := h }, d⟩) ∧
    ∀ s, (run = .ok () s ∨ ∃ e, run = .error e s) →
      s.trace.order = t.order ∧ s.trace.samples = t.samples ∧
        s.trace.header.storedInteger Header.countSlot = t.header.storedInteger Header.countSlot := by
  intro run
  refine ⟨?_, ?_, ?_, ?_⟩
  · intro h name content o hupdate hplace hpatchable
    refine ⟨d.put name (Folder.patched o h content), Folder.patched o h content, ?_,
      Folder.locate_put _ hplace, Folder.patched_spec hpatchable.length, ?_⟩
    · exact patchHeader_eq_ok_iff.2 ⟨h, name, content, _, hupdate, hplace,
        Folder.patch_eq_ok_iff.2 ⟨o, hpatchable, rfl⟩, rfl⟩
    · intro other hne
      exact Folder.find?_put_of_ne d name _ hne
  · intro hother
    rcases hrun : run with ⟨⟨⟩, s⟩ | ⟨e, s⟩
    · obtain ⟨h, name, content, new, hupdate, hplace, hnew, -⟩ := patchHeader_eq_ok_iff.1 hrun
      obtain ⟨o, hpatchable, -⟩ := Folder.patch_eq_ok_iff.1 hnew
      exact absurd ⟨h, name, content, o, hupdate, hplace, hpatchable⟩ hother
    · obtain rfl : s.folder = d := folder_of_patchHeader_error hrun
      exact ⟨e, s.trace, rfl⟩
  · intro h hupdate hplace
    refine patchHeader_eq_error_iff.2 (Or.inr ⟨h, hupdate, rfl, Or.inl ?_⟩)
    rcases hplace with hplace | ⟨name, hplace⟩
    · rw [Folder.fileAt, hplace]
    · rw [Folder.fileAt, hplace]
  · intro s hs
    obtain ⟨heq, hsamples, horder⟩ := trace_of_patchHeader hs
    exact ⟨horder, hsamples, heq.storedInteger_eq _⟩

end FileEdit

/-! ### A file with one sample -/

/-- A folder with one file. -/
def Folder.oneFile : Folder := empty.put ⟨0, "f"⟩ (Trace.oneSample.encode {})

/-- A trace with one sample and any version. -/
def Trace.withVersion (version : Int32) : Trace :=
  { oneSample with header := oneSample.header.setInteger Header.versionSlot (some version) }

lemma Trace.updateDistances_withVersion (version : Int32) :
    (withVersion version).header.updateDistances false = .ok (withVersion version).header :=
  Header.updateDistances_of_keeps (Or.inr (Or.inl rfl))

lemma Folder.patchable_oneSample : Patchable (Trace.oneSample.encode {}) none .little := by
  have hlen := Trace.headerSize_le_encode Trace.oneSample []
  have hvalid := Trace.isValidOrder_encode Trace.storable_oneSample []
  rw [List.append_nil] at hlen hvalid
  exact patchable_iff.2 ⟨hlen, hvalid, Or.inl rfl⟩

theorem FileEdit.write_headerOnly_oneFile :
    ∃ d new, write "f" { order := none, headerOnly := true } ⟨.withVersion 7, .oneFile⟩ =
        .ok () ⟨.withVersion 7, d⟩ ∧ d.locate "f" = .file ⟨0, "f"⟩ new ∧
      Folder.Patched .little (Trace.withVersion 7).header (Trace.oneSample.encode {}) new := by
  obtain ⟨hpatched, -⟩ := write_headerOnly "f" none (.withVersion 7) .oneFile
  obtain ⟨d, new, hrun, hplace, hnew, -⟩ := hpatched _ ⟨0, "f"⟩ _ .little
    (Trace.updateDistances_withVersion 7) rfl Folder.patchable_oneSample
  exact ⟨d, new, hrun, hplace, hnew⟩

/-! ### Reading a patched file -/

section Reading

open Trace

variable {path : String} {d : Folder} {asked again : Option ByteOrder} {exact : Bool}
  {was t : Trace} {s : Desk} {rest : List UInt8}

/-- Patching the encoding of a trace gives the encoding of the trace with a patched header. -/
lemma patched_encode {h : Header} :
    Folder.patched was.order h (was.encode {} ++ rest)
      = { was with header := Folder.keepSampleFields h was.header }.encode {} ++ rest := by
  rw [Folder.patched, readHeader_encode rfl, drop_encode, encode_default, List.append_assoc]

/-- A file that was read as a whole is patched in the order that it was read in. -/
lemma locate_of_patch (hread : d.read path { order := asked, exactSize := exact } = .ok was)
    (hpatch : FileEdit.write path { order := again, headerOnly := true } ⟨t, d⟩ = .ok () s) :
    was.Storable ∧ ∃ h name rest, t.header.updateDistances false = .ok h ∧
      s.folder.locate path = .file name
        ({ was with header := Folder.keepSampleFields h was.header }.encode {} ++ rest) := by
  obtain ⟨name, content, hplace, hwas⟩ := Folder.read_eq_ok_iff.1 hread
  obtain ⟨hstorable, -, rest, rfl, -⟩ := ofBytes_eq_ok_iff.1 hwas
  obtain ⟨h, name', content, new, hupdate, hplace', hnew, rfl⟩ :=
    FileEdit.patchHeader_eq_ok_iff.1 hpatch
  obtain ⟨rfl, rfl⟩ := Place.file.inj (hplace.symm.trans hplace')
  obtain ⟨o, hpatchable, rfl⟩ := Folder.patch_eq_ok_iff.1 hnew
  obtain ⟨-, hvalid, -⟩ := Folder.patchable_iff.1 hpatchable
  -- no version is valid in both orders
  obtain rfl := Binary.eq_of_isValidOrder o hvalid (isValidOrder_encode hstorable rest)
  refine ⟨hstorable, h, name, rest, hupdate, ?_⟩
  rw [← patched_encode]
  exact Folder.locate_put _ hplace

/-- A file that was read as a whole is read with the same samples in the same order after a
patch exactly if the version that the patch stored is one that is read. -/
theorem read_patched_iff
    (hread : d.read path { order := asked, exactSize := exact } = .ok was)
    (hpatch : FileEdit.write path { order := again, headerOnly := true } ⟨t, d⟩ = .ok () s) :
    (∃ now, s.folder.read path {} = .ok now ∧ now.order = was.order ∧
      now.header.storedInteger Header.countSlot = was.header.storedInteger Header.countSlot ∧
      now.samples = was.samples) ↔ t.header.storedInteger Header.versionSlot = 6 := by
  obtain ⟨hstorable, h, name, rest, hupdate, hplace⟩ := locate_of_patch hread hpatch
  have hversion : (Folder.keepSampleFields h was.header).storedInteger Header.versionSlot
      = t.header.storedInteger Header.versionSlot := by
    rw [Folder.storedInteger_keepSampleFields, if_neg (by decide),
      (Header.eqExceptDistances_of_update hupdate).storedInteger_eq]
  have hcount : (Folder.keepSampleFields h was.header).storedInteger Header.countSlot
      = was.header.storedInteger Header.countSlot := by
    rw [Folder.storedInteger_keepSampleFields, if_pos rfl]
  constructor
  · rintro ⟨now, hnow, horder, -⟩
    obtain ⟨name', content, hplace', hnow⟩ := Folder.read_eq_ok_iff.1 hnow
    obtain ⟨rfl, rfl⟩ := Place.file.inj (hplace.symm.trans hplace')
    obtain ⟨hstorable', -, rest', hcontent, -⟩ := ofBytes_eq_ok_iff.1 hnow
    -- both headers are read from the same bytes in the same order
    have hheader : now.header = Folder.keepSampleFields h was.header := by
      rw [← readHeader_encode horder, ← hcontent]
      exact readHeader_encode rfl
    rw [← hversion, ← hheader]
    exact hstorable'.version
  · intro hsix
    refine ⟨{ was with header := Folder.keepSampleFields h was.header }, ?_, rfl, hcount, rfl⟩
    refine Folder.read_eq_ok_iff.2 ⟨name, _, hplace, ?_⟩
    refine ofBytes_eq_ok_iff.2 ⟨⟨hversion.trans hsix, ?_⟩, Or.inl rfl, rest, rfl, by simp⟩
    obtain ⟨samples, hsamples, hcounted⟩ := hstorable.counted
    refine ⟨samples, hsamples, ?_⟩
    rwa [Header.sampleCount, Header.integer?_congr hcount]

end Reading

lemma Folder.read_oneFile :
    oneFile.read "f" { order := none, exactSize := false } = .ok Trace.oneSample :=
  read_eq_ok_iff.2 ⟨⟨0, "f"⟩, _, rfl,
    Trace.ofBytes_encode Trace.storable_oneSample false (Or.inl rfl)⟩

lemma FileEdit.write_oneFile (version : Int32) :
    write "f" { order := none, headerOnly := true } ⟨.withVersion version, .oneFile⟩ =
      .ok () ⟨.withVersion version, Folder.oneFile.put ⟨0, "f"⟩
        (Folder.patched .little (Trace.withVersion version).header (Trace.oneSample.encode {}))⟩ :=
  patchHeader_eq_ok_iff.2 ⟨_, ⟨0, "f"⟩, _, _, Trace.updateDistances_withVersion version, rfl,
    Folder.patch_eq_ok_iff.2 ⟨.little, Folder.patchable_oneSample, rfl⟩, rfl⟩

theorem read_patched_versionSix :
    ∃ s, FileEdit.write "f" { order := none, headerOnly := true } ⟨.withVersion 6, .oneFile⟩ =
        .ok () s ∧
      ∃ now, s.folder.read "f" {} = .ok now ∧ now.samples = Trace.oneSample.samples := by
  have hpatch := FileEdit.write_oneFile 6
  obtain ⟨now, hnow, -, -, hsamples⟩ :=
    (read_patched_iff Folder.read_oneFile hpatch).2 (by decide)
  exact ⟨_, hpatch, now, hnow, hsamples⟩

/-- A patch can make a file unreadable: it stores the version of the trace. -/
theorem read_patched_versionSeven :
    Folder.oneFile.read "f" {} = .ok Trace.oneSample ∧
      ∃ s, FileEdit.write "f" { headerOnly := true } ⟨.withVersion 7, .oneFile⟩ = .ok () s ∧
        s.folder.read "f" {} = .error (.invalidByteOrder none) := by
  refine ⟨Folder.read_oneFile, _, FileEdit.write_oneFile 7, ?_⟩
  have hplace : Folder.oneFile.locate "f" = .file ⟨0, "f"⟩ (Trace.oneSample.encode {}) := rfl
  rw [Folder.read_of_locate (Folder.locate_put _ hplace)]
  decide +kernel

end Seismogram
