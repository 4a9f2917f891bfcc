/-
# Reading a header alone

A header that is read by itself is the one that is read with its samples
(`ofBytes_headerOnly_of_ofBytes`).  The samples of a binary file have no part in it, and so it
makes no difference that no more than the record of the header is read from such a file
(`ofBytes_headerOnly_take`).
-/
import Seismogram.Proofs.Layout.Reading
import Seismogram.Proofs.Trace.Patch

namespace Seismogram

open Seismogram.Outcome

namespace Trace

variable {data : List UInt8} {options : ReadOptions} {t : Trace}

/-- The header of a binary file is read from its record. -/
lemma ofBytes_headerOnly_take (hlayout : options.alphanumeric = false) :
    ofBytes (data.take Binary.headerSize) { options with headerOnly := true } =
      ofBytes data { options with headerOnly := true } := by
  simp only [ofBytes, hlayout, Bool.false_eq_true, if_false, if_true, Binary.decodeHeader_take]

/-- What is read with the samples is read without them, in either layout. -/
lemma ofBytes_headerOnly_of_ofBytes
    (hread : ofBytes data { options with headerOnly := false } = .ok t) :
    ofBytes data { options with headerOnly := true } = .ok { t with samples := none } := by
  obtain ⟨order, headerOnly, alphanumeric, exactSize⟩ := options
  cases alphanumeric with
  | true =>
      simp only [ofBytes, if_true, bind_eq_ok_iff, Prod.exists, Except.ok.injEq,
        Alphanumeric.decode_eq_ok_iff, Alphanumeric.decode_headerOnly_eq_ok_iff] at hread ⊢
      obtain ⟨h, samples, ⟨hheader, -⟩, rfl⟩ := hread
      exact ⟨h, none, ⟨hheader, rfl⟩, rfl⟩
  | false =>
      simp only [ofBytes, Bool.false_eq_true, if_false, if_true, bind_eq_ok_iff, Prod.exists,
        Except.ok.injEq] at hread ⊢
      obtain ⟨h, o, hheader, samples, -, rfl⟩ := hread
      exact ⟨h, o, hheader, rfl⟩

end Trace

open Trace

/-- A header is read from a file as from all of its bytes. -/
lemma Folder.read_headerOnly_of_locate {d : Folder} {path : String} {name : FileName}
    {content : List UInt8} {options : ReadOptions} (hplace : d.locate path = .file name content) :
    d.read path { options with headerOnly := true } =
      ofBytes content { options with headerOnly := true } := by
  rcases Bool.eq_false_or_eq_true options.alphanumeric with hlayout | hlayout
  · simp [read, fileAt, hplace, hlayout]
  · rw [← ofBytes_headerOnly_take hlayout]
    simp [read, fileAt, hplace, hlayout]

/-- Where a file is read with its samples, its header is read by itself and is the same, in the
same order.  From a file in a folder the header is read as from the whole of its bytes, also
where that fails, although nothing counts there but the record of a binary file. -/
theorem read_headerOnly (options : ReadOptions) :
    (∀ data t, ofBytes data { options with headerOnly := false } = .ok t →
      ofBytes data { options with headerOnly := true } = .ok { t with samples := none }) ∧
    (∀ (d : Folder) path name content, d.locate path = .file name content →
      d.read path { options with headerOnly := true } =
        ofBytes content { options with headerOnly := true }) ∧
    (options.alphanumeric = false →
      ∀ (d d' : Folder) path path' name name' content content',
        d.locate path = .file name content → d'.locate path' = .file name' content' →
        content.take 632 = content'.take 632 →
          d.read path { options with headerOnly := true } =
            d'.read path' { options with headerOnly := true }) := by
  refine ⟨fun _ _ => ofBytes_headerOnly_of_ofBytes, fun _ _ _ _ => Folder.read_headerOnly_of_locate,
    ?_⟩
  intro hlayout d d' path path' name name' content content' hplace hplace' hsame
  have hrecord (c : List UInt8) : ofBytes c { options with headerOnly := true } =
      ofBytes (c.take 632) { options with headerOnly := true } :=
    (ofBytes_headerOnly_take hlayout).symm
  rw [Folder.read_headerOnly_of_locate hplace, Folder.read_headerOnly_of_locate hplace',
    hrecord content, hrecord content', hsame]

theorem read_headerOnly_oneFile :
    let sampled : ReadOptions := { order := none }
    ofBytes (oneSample.encode {}) { sampled with headerOnly := true } =
        .ok { oneSample with samples := none } ∧
      Folder.oneFile.read "f" { sampled with headerOnly := true } =
        .ok { oneSample with samples := none } ∧
      Folder.oneFile.read "f" { sampled with headerOnly := true } =
        Folder.oneFile.read "./f" { sampled with headerOnly := true } := by
  intro sampled
  obtain ⟨hfull, hfile, hsame⟩ := read_headerOnly sampled
  have honly := hfull _ _ (ofBytes_encode storable_oneSample false (Or.inl rfl))
  exact ⟨honly, (hfile _ _ _ _ rfl).trans honly, hsame rfl _ _ _ _ _ _ _ _ rfl rfl rfl⟩

end Seismogram
