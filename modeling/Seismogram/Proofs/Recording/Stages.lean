/-
# A recording made into a trace, stage by stage

The values of a recording are stored in a new header, whose distances are then brought up to
date; its identifiers and interval, its reference time where the values give none, its
beginning and its samples follow, and the distances once more (`Recording.Built`).  Every stage
writes fields of known names (`Header.EqExceptFields`), so a field that no stage writes holds in
the end what was stored for it (`Recording.Built.eqExceptFields`).
-/
import Mathlib.Tactic.Common
import Seismogram.Proofs.Header.Distances
import Seismogram.Proofs.Recording.HeaderMap
import Seismogram.Proofs.Trace.Distances
import Seismogram.Proofs.Trace.ReferenceTime
import Seismogram.Proofs.Trace.Values
import Seismogram.Recording.Basic

namespace Seismogram

open Seismogram.Number Seismogram.Time Seismogram.Outcome

namespace Header

variable {h k l : Header} {names more : List String}

/-! ### The header of a new trace -/

lemma reals_null : null.reals = blank.reals := by
  refine List.foldlRecOn (motive := fun h : Header => h.reals = blank.reals) Schema.fields _ rfl
    fun h hreals f _ => ?_
  split
  · exact (reals_setText _ _).trans hreals
  · exact hreals

lemma storedReal_null (slot : Fin 70) : null.storedReal slot = nullReal := by
  rw [storedReal_congr reals_null, storedReal, blank]
  exact Vector.getElem_replicate _

lemma storedReal_setReferenceFields (fields : ReferenceFields) (slot : Fin 70) :
    (h.setReferenceFields fields).storedReal slot = h.storedReal slot :=
  storedReal_congr (reals_setReferenceFields fields) slot

lemma storedReal_setLogical (a : Fin 40) (b : Option Bool) (slot : Fin 70) :
    (h.setLogical a b).storedReal slot = h.storedReal slot := rfl

lemma storedReal_fresh {slot : Fin 70} (hbegin : beginSlot ≠ slot) (hdelta : deltaSlot ≠ slot) :
    fresh.storedReal slot = nullReal := by
  rw [fresh, storedReal_setReferenceFields, storedReal_setLogical, storedReal_setLogical,
    storedReal_setLogical, storedReal_setInteger, storedReal_setInteger, storedReal_setReal,
    if_neg hdelta, storedReal_setReal, if_neg hbegin, storedReal_setInteger,
    storedReal_setInteger, storedReal_null]

lemma storedInteger_fresh_distancesFollow : fresh.storedInteger distancesFollowSlot = 0 := by
  rw [fresh, storedInteger_setReferenceFields _ (by decide), setLogical, storedInteger_setInteger,
    if_pos rfl]
  rfl

lemma storedReference_fresh : fresh.storedReference = decompose .epoch := by
  rw [fresh, storedReference_setReferenceFields, decompose_epoch]

/-- A new trace begins at its reference time, the start of 1970. -/
lemma referenceTime_fresh : fresh.referenceTime = .ok .epoch :=
  referenceTime_of_epoch storedReference_fresh

/-! ### Headers that differ in some fields -/

/-- Two headers differ at most in the fields of some names. -/
def EqExceptFields (names : List String) (h k : Header) : Prop :=
  ∀ f ∈ Schema.fields, f.name ∉ names → SameCell f.cell h k

namespace EqExceptFields

lemma refl (h : Header) : EqExceptFields [] h h := fun _ _ _ => SameCell.refl _ _

lemma trans (hk : EqExceptFields names h k) (hl : EqExceptFields more k l) :
    EqExceptFields (names ++ more) h l := by
  intro f hf hname
  rw [List.mem_append, not_or] at hname
  exact (hk f hf hname.1).trans (hl f hf hname.2)

lemma mono (hk : EqExceptFields names h k) (hsubset : names ⊆ more) : EqExceptFields more h k :=
  fun f hf hname => hk f hf fun hmem => hname (hsubset hmem)

/-- The cell that the schema gives to another name is the same. -/
lemma sameCell (hk : EqExceptFields names h k) {name : String} {c : Cell}
    (hc : (Schema.find? name).map Field.cell = some c) (hname : name ∉ names) :
    SameCell c h k := by
  obtain ⟨f, hf, rfl⟩ := Option.map_eq_some_iff.1 hc
  obtain ⟨hmem, rfl⟩ := Schema.find?_eq_some hf
  exact hk f hmem hname

lemma storedInteger_eq (hk : EqExceptFields names h k) (n : IntegerName) (hn : n.name ∉ names) :
    k.storedInteger n.slot = h.storedInteger n.slot :=
  (hk.sameCell n.find?_name hn).integers n.slot rfl

lemma storedReal_eq (hk : EqExceptFields names h k) (n : RealName) (hn : n.name ∉ names) :
    k.storedReal n.slot = h.storedReal n.slot := by
  rcases n.find?_name with hc | hc
  · exact (hk.sameCell hc hn).reals n.slot rfl
  · exact (hk.sameCell hc hn).reals n.slot rfl

lemma get_eq (hk : EqExceptFields names h k) (n : TextName) (hn : n.name ∉ names) :
    n.get k = n.get h :=
  text?_congr (textBytes_congr (hk.sameCell n.find?_name hn))

/-- The slots of the reference time are those of six names. -/
lemma exists_integerName : ∀ field ∈ referenceSlots,
    ∃ n : IntegerName, (n.name, n.slot) = field := by
  simp only [referenceSlots, List.forall_mem_cons]
  exact ⟨⟨.nzyear, rfl⟩, ⟨.nzjday, rfl⟩, ⟨.nzhour, rfl⟩, ⟨.nzmin, rfl⟩, ⟨.nzsec, rfl⟩,
    ⟨.nzmsec, rfl⟩, by simp⟩

lemma storedInteger_reference (hk : EqExceptFields names h k)
    (hnames : ∀ field ∈ referenceSlots, field.1 ∉ names) :
    ∀ field ∈ referenceSlots, k.storedInteger field.2 = h.storedInteger field.2 := by
  intro field hfield
  obtain ⟨n, rfl⟩ := exists_integerName field hfield
  exact hk.storedInteger_eq n (hnames _ hfield)

/-- The reference time is the same where its six fields are. -/
lemma referenceTime_eq (hk : EqExceptFields names h k)
    (hnames : ∀ field ∈ referenceSlots, field.1 ∉ names) : k.referenceTime = h.referenceTime :=
  referenceTime_congr (hk.storedInteger_reference hnames)

/-- So are the flag and the coordinates that distances follow from. -/
lemma keepsDistances (hk : EqExceptFields names h k)
    (hnames : ∀ name ∈ ["lcalda", "stla", "stlo", "evla", "evlo"], name ∉ names)
    (hh : h.KeepsDistances) : k.KeepsDistances := by
  have hflag : k.storedInteger distancesFollowSlot = h.storedInteger distancesFollowSlot :=
    (hk.sameCell cell_lcalda (hnames _ (by simp))).integers _ rfl
  have hcoordinate (n : Coordinate) : k.real? n.slot = h.real? n.slot := by
    refine real?_congr ((hk.sameCell n.find?_name (hnames _ ?_)).reals n.slot rfl)
    cases n <;> simp [Coordinate.name]
  rw [KeepsDistances, hflag]
  refine hh.imp_right (Or.imp_right (And.imp_right ?_))
  rintro ⟨slot, hslot, hnull⟩
  refine ⟨slot, hslot, ?_⟩
  simp only [coordinateSlots, List.mem_cons, List.not_mem_nil, or_false] at hslot
  rcases hslot with rfl | rfl | rfl | rfl
  · exact (hcoordinate .stla).trans hnull
  · exact (hcoordinate .stlo).trans hnull
  · exact (hcoordinate .evla).trans hnull
  · exact (hcoordinate .evlo).trans hnull

end EqExceptFields

/-! ### What is written by name -/

lemma eqExceptFields_of_cell {name : String} {c : Cell}
    (hc : (Schema.find? name).map Field.cell = some c) (hk : EqExceptCell c h k) :
    EqExceptFields [name] h k := by
  intro f hf hname
  rw [List.mem_singleton] at hname
  exact hk.sameCell (Schema.apart_of_name hf hc hname)

lemma eqExceptFields_setReal (n : RealName) (x : Option Single) :
    EqExceptFields [n.name] h (h.setReal n.slot x) := by
  rcases n.find?_name with hc | hc
  · exact eqExceptFields_of_cell hc (eqExceptCell_setReal rfl x)
  · exact eqExceptFields_of_cell hc (eqExceptCell_setReal rfl x)

lemma eqExceptFields_setText (n : TextName) (s : Option String) :
    EqExceptFields [n.name] h (h.setText n.span s) :=
  eqExceptFields_of_cell n.find?_name (eqExceptCell_setText _ _)

/-- The names of the fields of the reference time. -/
def referenceNames : List String := referenceSlots.map Prod.fst

lemma eqExceptFields_setReferenceFields (fields : ReferenceFields) :
    EqExceptFields referenceNames h (h.setReferenceFields fields) := by
  have hearly : ∀ slot : Fin 40, ¬6 ≤ slot → slot ∈ [IntegerName.nzyear, .nzjday, .nzhour,
      .nzmin, .nzsec, .nzmsec].map IntegerName.slot := by
    decide
  intro f hf hname
  refine
    { reals := fun slot _ => storedReal_congr (reals_setReferenceFields _) slot
      integers := fun slot hslot => storedInteger_setReferenceFields _ ?_
      text := fun i _ => by rw [text_setReferenceFields] }
  by_contra hlate
  exact hname (Schema.name_mem_of_integerSlot _ hf hslot (hearly slot hlate))

/-- The names of the fields that describe samples. -/
def sampleNames : List String := ["npts", "depmin", "depmax", "depmen", "e"]

lemma eqExceptFields_describe (samples : List Single) :
    EqExceptFields sampleNames h (h.describe samples) := by
  intro f hf hname
  refine
    { reals := fun slot hslot => storedReal_describe fun hmem => hname ?_
      integers := fun slot hslot => storedInteger_describe ?_
      text := fun i _ => by rw [text_describe] }
  · exact List.mem_cons_of_mem _
      (Schema.name_mem_of_realSlot [.depmin, .depmax, .depmen, .e] hf hslot hmem)
  · rintro rfl
    exact hname (by simp [sampleNames, Schema.name_of_countSlot f hf hslot])

lemma eqExceptFields_of_eqExceptDistances (hk : EqExceptDistances h k) :
    EqExceptFields distanceNames h k := by
  intro f hf hname
  exact
    { reals := fun slot hslot =>
        hk.reals slot fun hmem => hname (name_of_distanceSlot f hf slot hmem hslot)
      integers := fun slot _ => hk.storedInteger_eq slot
      text := fun i _ => by rw [hk.text] }

end Header

namespace Recording

open Header

variable {r : Recording} {m : HeaderMap} {h k : Header} {out : Trace}

/-! ### The stages -/

/-- The names of the fields that the identifiers and the interval of a recording are for. -/
def identityNames : List String := ["knetwk", "kstnm", "khole", "kcmpnm", "delta"]

lemma eqExceptFields_identify (h : Header) : EqExceptFields identityNames h (r.identify h) :=
  (((eqExceptFields_setText .knetwk _).trans (eqExceptFields_setText .kstnm _)).trans
    (eqExceptFields_setText .khole _)).trans (eqExceptFields_setText .kcmpnm _) |>.trans
    (eqExceptFields_setReal .delta _)

/-- The identifiers of a recording, with the fields that they are for. -/
def identifiers (r : Recording) : List (TextName × String) :=
  [(.knetwk, r.network), (.kstnm, r.station), (.khole, r.location), (.kcmpnm, r.channel)]

lemma get_identify (h k : Header) {n : TextName} {s : String} (hmem : (n, s) ∈ r.identifiers) :
    n.get (r.identify h) = n.get (k.setText n.span (nonEmpty s)) := by
  simp only [identifiers, List.mem_cons, Prod.mk.injEq, List.not_mem_nil, or_false] at hmem
  rcases hmem with ⟨rfl, rfl⟩ | ⟨rfl, rfl⟩ | ⟨rfl, rfl⟩ | ⟨rfl, rfl⟩
  · have hlater : EqExceptFields ["kstnm", "khole", "kcmpnm", "delta"]
        (h.setText TextName.knetwk.span (nonEmpty r.network)) (r.identify h) :=
      (((eqExceptFields_setText .kstnm _).trans (eqExceptFields_setText .khole _)).trans
        (eqExceptFields_setText .kcmpnm _)).trans (eqExceptFields_setReal .delta _)
    exact (hlater.get_eq .knetwk (by decide)).trans (text?_setText_congr _ _)
  · have hlater : EqExceptFields ["khole", "kcmpnm", "delta"]
        ((h.setText TextName.knetwk.span (nonEmpty r.network)).setText TextName.kstnm.span
          (nonEmpty r.station)) (r.identify h) :=
      ((eqExceptFields_setText .khole _).trans (eqExceptFields_setText .kcmpnm _)).trans
        (eqExceptFields_setReal .delta _)
    exact (hlater.get_eq .kstnm (by decide)).trans (text?_setText_congr _ _)
  · have hlater : EqExceptFields ["kcmpnm", "delta"]
        (((h.setText TextName.knetwk.span (nonEmpty r.network)).setText TextName.kstnm.span
          (nonEmpty r.station)).setText TextName.khole.span (nonEmpty r.location))
        (r.identify h) :=
      (eqExceptFields_setText .kcmpnm _).trans (eqExceptFields_setReal .delta _)
    exact (hlater.get_eq .khole (by decide)).trans (text?_setText_congr _ _)
  · have hlater : EqExceptFields ["delta"]
        ((((h.setText TextName.knetwk.span (nonEmpty r.network)).setText TextName.kstnm.span
          (nonEmpty r.station)).setText TextName.khole.span (nonEmpty r.location)).setText
          TextName.kcmpnm.span (nonEmpty r.channel)) (r.identify h) :=
      eqExceptFields_setReal .delta _
    exact (hlater.get_eq .kcmpnm (by decide)).trans (text?_setText_congr _ _)

/-- A recording refers to the time that its values give, or else to its start. -/
lemma refer_eq_ok_iff : r.refer h = .ok k ↔
    (r.headers.any givesReferenceTime = true ∧ k = h) ∨
      (r.headers.any givesReferenceTime = false ∧ ∃ start, roundToMillisecond r.start = .ok start ∧
        (h.setReferenceFields (decompose start)).setSymbol SymbolName.iztype.name
          SymbolName.iztype.slot SymbolName.iztype.accepted (some "ib") = .ok k) := by
  rw [refer]
  split
  · rename_i hgiven
    simp [hgiven, eq_comm]
  · rename_i hgiven
    simp [hgiven, bind_eq_ok_iff]

lemma eqExceptFields_refer (hk : r.refer h = .ok k) :
    EqExceptFields (referenceNames ++ ["iztype"]) h k := by
  rcases refer_eq_ok_iff.1 hk with ⟨-, rfl⟩ | ⟨-, start, -, hsymbol⟩
  · exact (EqExceptFields.refl k).mono (List.nil_subset _)
  · exact (eqExceptFields_setReferenceFields _).trans
      (eqExceptFields_of_cell SymbolName.iztype.find?_name (eqExceptCell_setSymbol hsymbol))

/-- The values of a map stored in a new header: first those that are no absolute times. -/
structure Held (m : HeaderMap) (middle stored : Header) : Prop where
  others : Trace.storeOthers fresh m.entries = .ok middle
  times : Trace.storeTimes middle m.entries = .ok stored

/-- The headers between the one that holds the values of a recording and that of its trace. -/
structure Built (r : Recording) (stored updated referred : Header) (reference : Instant)
    (out : Trace) : Prop where
  update : stored.updateDistances false = .ok updated
  refer : r.refer (r.identify updated) = .ok referred
  known : referred.referenceTime = .ok reference
  finish : ((referred.setReal beginSlot
    (some (secondsBetween r.start reference).narrow)).describe r.samples).updateDistances false
      = .ok out.header
  samples : out.samples = some r.samples

variable {middle stored updated referred : Header} {reference : Instant}

lemma exists_built (hm : r.headers = some m) (hout : r.toTrace = .ok out) :
    ∃ middle stored updated referred reference, Held m middle stored ∧
      Built r stored updated referred reference out := by
  simp only [toTrace, base, hm, Trace.ofValues, bind_eq_ok_iff, Except.ok.injEq] at hout
  obtain ⟨_, ⟨middle, hothers, stored, htimes, updated, hupdated, rfl⟩, referred, hreferred,
    reference, hreference, header, hheader, rfl⟩ := hout
  exact ⟨middle, stored, updated, referred, reference, ⟨hothers, htimes⟩,
    ⟨hupdated, hreferred, hreference, hheader, rfl⟩⟩

lemma Held.stored_field (hheld : Held m middle stored) {f : Field} (hf : f ∈ Schema.fields) :
    Trace.Stored m.entries f fresh middle stored :=
  Trace.stored_of_storeTimes hheld.others hheld.times m.names_nodup hf

namespace Built

/-- The names of the fields that every recording has something for. -/
def writtenNames : List String := identityNames ++ (["b"] ++ sampleNames)

lemma eqExceptFields_described (x : Option Single) (samples : List Single) :
    EqExceptFields (["b"] ++ sampleNames) h ((h.setReal beginSlot x).describe samples) :=
  (eqExceptFields_setReal .b x).trans (eqExceptFields_describe samples)

lemma eqExceptFields_referred (hb : Built r stored updated referred reference out) :
    EqExceptFields (["b"] ++ sampleNames ++ distanceNames) referred out.header :=
  (eqExceptFields_described _ _).trans
    (eqExceptFields_of_eqExceptDistances (eqExceptDistances_of_update hb.finish))

/-- The reference time of the trace is the one that its beginning is measured from. -/
lemma referenceTime_eq (hb : Built r stored updated referred reference out) :
    out.header.referenceTime = .ok reference := by
  rw [hb.eqExceptFields_referred.referenceTime_eq (by decide), hb.known]

variable {names : List String}

/-- A field that no stage writes holds what was stored for it. -/
lemma eqExceptFields (hb : Built r stored updated referred reference out)
    (hrefer : EqExceptFields names (r.identify updated) referred) :
    EqExceptFields (writtenNames ++ distanceNames ++ names) stored out.header := by
  have hupdate := eqExceptFields_of_eqExceptDistances (eqExceptDistances_of_update hb.update)
  have hall := ((hupdate.trans (eqExceptFields_identify updated)).trans hrefer).trans
    hb.eqExceptFields_referred
  refine hall.mono fun name hname => ?_
  simp only [writtenNames, List.mem_append] at hname ⊢
  tauto

/-- Distances that are not asked for before the stages are not asked for after them. -/
lemma keepsDistances_described (hrefer : EqExceptFields names (r.identify stored) referred)
    (hnames : ∀ name ∈ ["lcalda", "stla", "stlo", "evla", "evlo"], name ∉ names)
    (hkeeps : stored.KeepsDistances) (x : Option Single) :
    ((referred.setReal beginSlot x).describe r.samples).KeepsDistances := by
  have hreferred := (eqExceptFields_identify stored).trans hrefer
  have hall := hreferred.trans (eqExceptFields_described x r.samples)
  refine hall.keepsDistances (fun name hname => ?_) hkeeps
  have hother : ∀ name ∈ ["lcalda", "stla", "stlo", "evla", "evlo"], name ∉ writtenNames := by
    decide
  have hfree := hother name hname
  have hfree' := hnames name hname
  simp only [writtenNames, List.mem_append] at hfree ⊢
  tauto

/-- If they are not asked for, there is a trace as soon as the recording has a reference time. -/
lemma exists_toTrace_of_refer (hm : r.headers = some m) (hheld : Held m middle stored)
    (hkeeps : stored.KeepsDistances) (hrefer : r.refer (r.identify stored) = .ok referred)
    (hreference : referred.referenceTime = .ok reference) : ∃ out, r.toTrace = .ok out := by
  have hkeeps' := keepsDistances_described (eqExceptFields_refer hrefer) (by decide) hkeeps
    (some (secondsBetween r.start reference).narrow)
  simp only [toTrace, base, hm, Trace.ofValues, hheld.others, hheld.times, ok_bind,
    updateDistances_of_keeps hkeeps, hrefer, hreference, updateDistances_of_keeps hkeeps']
  exact ⟨_, rfl⟩

/-- If the distances are not asked for, neither are they written. -/
lemma eqExceptFields_of_keeps (hb : Built r stored updated referred reference out)
    (hrefer : EqExceptFields names (r.identify updated) referred)
    (hnames : ∀ name ∈ ["lcalda", "stla", "stlo", "evla", "evlo"], name ∉ names)
    (hkeeps : stored.KeepsDistances) :
    EqExceptFields (writtenNames ++ names) stored out.header := by
  obtain rfl := Except.ok.inj ((updateDistances_of_keeps hkeeps).symm.trans hb.update)
  have hreferred := (eqExceptFields_identify stored).trans hrefer
  have hall := hreferred.trans (eqExceptFields_described
    (some (secondsBetween r.start reference).narrow) r.samples)
  have hkeeps' := keepsDistances_described hrefer hnames hkeeps
    (some (secondsBetween r.start reference).narrow)
  rw [Except.ok.inj ((updateDistances_of_keeps hkeeps').symm.trans hb.finish)] at hall
  refine hall.mono fun name hname => ?_
  simp only [writtenNames, List.mem_append] at hname ⊢
  tauto

/-! ### What a recording has of its own -/

lemma integer?_count (hb : Built r stored updated referred reference out) :
    out.header.integer? countSlot = some (Samples.count r.samples) := by
  have hcount : (Samples.count r.samples).toInt = (min r.samples.length 2147483647 : ℕ) := by
    rw [Samples.count, Int32.toInt_ofInt_of_le] <;> omega
  have hstored : out.header.storedInteger countSlot = Samples.count r.samples := by
    rw [(eqExceptDistances_of_update hb.finish).storedInteger_eq,
      storedInteger_congr integers_describe, storedInteger_setInteger, if_pos rfl,
      Option.getD_some]
  refine integer?_eq_some_iff.2 ⟨fun hnull => ?_, hstored⟩
  have hnegative : nullInteger.toInt = -12345 := rfl
  rw [hnull, hnegative] at hcount
  omega

lemma storedReal_begin (hb : Built r stored updated referred reference out) :
    out.header.storedReal beginSlot = (secondsBetween r.start reference).narrow := by
  rw [(eqExceptDistances_of_update hb.finish).reals _ (by decide),
    storedReal_describe (by decide), storedReal_setReal, if_pos rfl, Option.getD_some]

/-- The stages after the identifiers and the interval leave them. -/
lemma eqExceptFields_identified (hb : Built r stored updated referred reference out) :
    EqExceptFields (referenceNames ++ ["iztype"] ++ (["b"] ++ sampleNames ++ distanceNames))
      (r.identify updated) out.header :=
  (eqExceptFields_refer hb.refer).trans hb.eqExceptFields_referred

lemma storedReal_delta (hb : Built r stored updated referred reference out) :
    out.header.storedReal deltaSlot = r.interval.narrow := by
  have hsame := hb.eqExceptFields_identified.storedReal_eq .delta (by decide)
  have hset : (r.identify updated).storedReal deltaSlot = r.interval.narrow := by
    rw [identify, storedReal_setReal, if_pos rfl, Option.getD_some]
  exact hsame.trans hset

/-- An identifier is stored trimmed, where something is left of it. -/
lemma get_identifier (hb : Built r stored updated referred reference out) (h : Header)
    {n : TextName} {s : String} (hmem : (n, s) ∈ r.identifiers) :
    n.get out.header = n.get (h.setText n.span (nonEmpty s)) := by
  have hother : ∀ n ∈ [TextName.knetwk, .kstnm, .khole, .kcmpnm],
      n.name ∉ referenceNames ++ ["iztype"] ++ (["b"] ++ sampleNames ++ distanceNames) := by
    decide
  rw [hb.eqExceptFields_identified.get_eq n (hother n ?_), get_identify updated h hmem]
  have hnames : n ∈ r.identifiers.map Prod.fst := List.mem_map.2 ⟨_, hmem, rfl⟩
  exact hnames

end Built

end Recording

end Seismogram
