/-
# What writing does to the trace that is written

Writing may change the trace: it brings the distances up to date, where the flag and the
coordinates ask for it (`Edit.follows_of_ne`), and nothing else.  So a trace that was written is
written again as the same bytes, and a header that is written alone is the beginning of the whole
file.  Writing fails for the first of its faults (`WriteFault`) and leaves the trace as it was.
-/
import Mathlib.Tactic.Common
import Seismogram.Proofs.Trace.RoundTrip

namespace Seismogram

open Seismogram.Number Seismogram.Outcome Seismogram.Geodesy

/-! ### Faults -/

/-- A trace that can be written as far as its form and its samples go: a header is not written
alone as text, and the samples that the header promises are there or not asked for. -/
structure Writable (t : Trace) (options : WriteOptions) : Prop where
  form : ¬(options.alphanumeric = true ∧ options.headerOnly = true)
  samples : options.headerOnly = true ∨ t.samples ≠ none ∨
    t.header.integer? Header.countSlot = none ∨ t.header.integer? Header.countSlot = some 0

/-- What stands against writing a trace.  Each fault supposes that there is none of those before
it. -/
inductive WriteFault (t : Trace) (options : WriteOptions) : Error → Prop
  | form (htext : options.alphanumeric = true) (hheader : options.headerOnly = true) :
      WriteFault t options .headerOnlyText
  | samples {npts : Int32} (hfull : options.headerOnly = false) (hmissing : t.samples = none)
      (hnpts : t.header.integer? Header.countSlot = some npts) (hpromised : npts ≠ 0) :
      WriteFault t options (.missingSamples npts)
  | distances {e : Error} (hwritable : Writable t options) (hfault : t.header.DistanceFault e) :
      WriteFault t options e

namespace Trace

variable {t : Trace} {options : WriteOptions}

lemma checkWritable_eq_error_iff {e : Error} : t.checkWritable options = .error e ↔
    (options.alphanumeric = true ∧ options.headerOnly = true ∧ e = .headerOnlyText) ∨
      (options.headerOnly = false ∧ t.samples = none ∧ ∃ npts,
        t.header.integer? Header.countSlot = some npts ∧ npts ≠ 0 ∧ e = .missingSamples npts) := by
  rw [checkWritable]
  rcases hheader : options.headerOnly with _ | _
  · rcases t.samples with _ | samples
    · rcases t.header.integer? Header.countSlot with _ | npts
      · simp
      · by_cases hnone : npts = 0
        · simp [hnone]
        · simp only [Bool.and_false, Bool.false_eq_true, if_false, Option.isSome_none, Bool.or_self,
            hnone, Except.error.injEq, false_and, and_false, false_or, true_and, Option.some.injEq,
            exists_eq_left', ne_eq, not_false_eq_true]
          exact eq_comm
    · simp
  · rcases options.alphanumeric with _ | _
    · simp
    · simp [eq_comm]

lemma checkWritable_eq_ok_iff : t.checkWritable options = .ok () ↔ Writable t options := by
  have hnone : t.checkWritable options = .ok () ↔ ∀ e, t.checkWritable options ≠ .error e := by
    rcases t.checkWritable options with e | _ <;> simp
  rw [hnone]
  simp only [ne_eq, checkWritable_eq_error_iff, not_or]
  constructor
  · intro hfaultless
    refine ⟨fun hboth => (hfaultless _).1 ⟨hboth.1, hboth.2, rfl⟩, ?_⟩
    by_contra hmissing
    simp only [not_or, not_not, Bool.not_eq_true] at hmissing
    obtain ⟨hfull, hsamples, hset, hpromised⟩ := hmissing
    obtain ⟨npts, hnpts⟩ := Option.ne_none_iff_exists'.1 hset
    refine (hfaultless _).2 ⟨hfull, hsamples, npts, hnpts, ?_, rfl⟩
    rintro rfl
    exact hpromised hnpts
  · rintro ⟨hform, hsamples⟩ e
    refine ⟨fun hboth => hform ⟨hboth.1, hboth.2.1⟩, ?_⟩
    rintro ⟨hfull, hmissing, npts, hnpts, hpromised, -⟩
    simp [hfull, hmissing, hnpts, hpromised] at hsamples

end Trace

namespace Edit

variable {t t' t'' : Trace} {options : WriteOptions} {out : List UInt8}

/-- Writing fails for the first of its faults, and only for one. -/
lemma toBytes_eq_error_iff_writeFault {e : Error} :
    toBytes options t = .error e t' ↔ t' = t ∧ WriteFault t options e := by
  rw [toBytes_eq_error_iff, Trace.checkWritable_eq_error_iff, Trace.checkWritable_eq_ok_iff,
    Header.updateDistances_eq_error_iff, and_comm]
  refine and_congr_right fun _ => ?_
  constructor
  · rintro ((⟨htext, hheader, rfl⟩ | ⟨hfull, hmissing, npts, hnpts, hpromised, rfl⟩) |
      ⟨hwritable, hfault⟩)
    · exact .form htext hheader
    · exact .samples hfull hmissing hnpts hpromised
    · exact .distances hwritable hfault
  · intro hfault
    cases hfault with
    | form htext hheader => exact Or.inl (Or.inl ⟨htext, hheader, rfl⟩)
    | samples hfull hmissing hnpts hpromised =>
        exact Or.inl (Or.inr ⟨hfull, hmissing, _, hnpts, hpromised, rfl⟩)
    | distances hwritable hfault => exact Or.inr ⟨hwritable, hfault⟩

/-! ### Success -/

/-- Only the distances that the flag and the coordinates ask for are written anew. -/
lemma follows_of_ne (hwrite : toBytes options t = .ok out t') (hne : t' ≠ t) :
    t.header.FollowsCoordinates := by
  obtain ⟨-, hupdate, heq, -⟩ := toBytes_eq_ok_iff.1 hwrite
  rcases Header.updateDistances_inv hupdate with hsame | ⟨event, station, l, hflag, hpoints, -, -⟩
  · rw [hsame] at heq
    exact absurd heq hne
  · exact Header.follows_of_points hflag hpoints

/-- A header that is written alone is the beginning of the whole file. -/
lemma toBytes_headerOnly {asked asked' : Option ByteOrder} {head full : List UInt8}
    (horder : asked.getD t.order = asked'.getD t.order)
    (hhead : toBytes { order := asked, headerOnly := true } t = .ok head t')
    (hfull : toBytes { order := asked' } t = .ok full t'') :
    head = full.take 632 ∧ head.length = 632 := by
  obtain ⟨-, hupdate, heq, rfl⟩ := toBytes_eq_ok_iff.1 hhead
  obtain ⟨-, hupdate', heq', rfl⟩ := toBytes_eq_ok_iff.1 hfull
  have hheader : t'.header = t''.header := Except.ok.inj (hupdate.symm.trans hupdate')
  have hlen := Binary.length_encodeHeader (asked.getD t.order) t'.header
  rw [Binary.headerSize_eq] at hlen
  have hhead : t'.encode { order := asked, headerOnly := true } =
      Binary.encodeHeader (asked.getD t.order) t'.header := by
    rw [heq]
    exact List.append_nil _
  have hfull : t''.encode { order := asked' } = Binary.encodeHeader (asked.getD t.order) t'.header
      ++ Binary.encodeSamples (asked.getD t.order) (t''.samples.getD []) := by
    rw [horder, hheader, heq']
    rfl
  rw [hhead, hfull, ← hlen, List.take_left]
  exact ⟨rfl, rfl⟩

end Edit

/-- Writing changes nothing but the distances that are asked for, and writes the same again; and
it fails for its first fault without a change.  A header that is written alone is the beginning of
the whole file in the same order. -/
theorem toBytes_repeated (t : Trace) (options : WriteOptions) :
    (∀ out t', Edit.toBytes options t = .ok out t' →
      (Header.EqExceptDistances t.header t'.header ∧ t'.samples = t.samples ∧
        t'.order = t.order) ∧
      (t' ≠ t → t.header.FollowsCoordinates) ∧
      Edit.toBytes options t' = .ok out t') ∧
    (∀ asked asked' head full t₁ t₂, asked.getD t.order = asked'.getD t.order →
      Edit.toBytes { order := asked, headerOnly := true } t = .ok head t₁ →
      Edit.toBytes { order := asked' } t = .ok full t₂ →
      head = full.take 632 ∧ head.length = 632) ∧
    ∀ e t', Edit.toBytes options t = .error e t' ↔ t' = t ∧ WriteFault t options e := by
  refine ⟨fun out t' hwrite => ⟨Edit.eqExceptDistances_of_toBytes hwrite,
    Edit.follows_of_ne hwrite, ?_⟩, fun _ _ _ _ _ _ horder hhead hfull =>
    Edit.toBytes_headerOnly horder hhead hfull, fun e t' => Edit.toBytes_eq_error_iff_writeFault⟩
  obtain ⟨-, -, -, rfl⟩ := Edit.toBytes_eq_ok_iff.1 hwrite
  exact Edit.toBytes_again hwrite t'.order

/-! ### A trace that changes -/

/-- A trace with one sample, its station and its event where the equator crosses the first
meridian, which asks for distances that it does not have yet. -/
def Trace.unmeasured : Trace where
  header :=
    ((((Header.blank.setReal Header.stationLatitudeSlot (some (.zero false))).setReal
      Header.stationLongitudeSlot (some (.zero false))).setReal Header.eventLatitudeSlot
      (some (.zero false))).setReal Header.eventLongitudeSlot (some (.zero false))).setLogical
      Header.distancesFollowSlot (some true)
  samples := some [⟨0x3F800000⟩]
  order := .little

lemma Trace.real?_unmeasured {slot : Fin 70} (hslot : slot ∈ Header.coordinateSlots) :
    unmeasured.header.real? slot = some (.zero false) := by
  have hall : ∀ slot ∈ Header.coordinateSlots, unmeasured.header.real? slot = some (.zero false) := by
    decide
  exact hall slot hslot

/-- The distances of one place from itself are brought up to date. -/
lemma Trace.updateDistances_unmeasured :
    unmeasured.header.updateDistances false = .ok (unmeasured.header.setLine .none) := by
  have hzero : isLatitude (Floating.widen (.zero false : Single)) = true := by
    rw [Header.isLatitude_widen_iff]
    refine ⟨by decide, ?_⟩
    rw [Floating.zero, Floating.value_ofMagnitude Format.regular_single (by decide),
      Format.magnitudeValue_zero]
    decide
  have hnumber : (Floating.widen (.zero false : Single)).isNaN = false := by
    have hlow := (Bool.and_eq_true_iff.1 hzero).1
    exact (Floating.le_iff.1 hlow).2.1
  have hpoints := Header.points_eq_ok_iff.2 ⟨_, _, _, _, real?_unmeasured (by decide),
    real?_unmeasured (by decide), real?_unmeasured (by decide), real?_unmeasured (by decide),
    rfl, rfl⟩
  have hflag : unmeasured.header.distancesFollow = .ok (some true) :=
    Header.distancesFollow_setLogical true
  rw [Header.updateDistances_of_points hflag hpoints, Header.line_self hzero hnumber, ok_bind]

theorem toBytes_repeated_unmeasured :
    ∃ head full t, t ≠ .unmeasured ∧ Edit.toBytes {} .unmeasured = .ok full t ∧
      Edit.toBytes {} t = .ok full t ∧
      Edit.toBytes { headerOnly := true } .unmeasured = .ok head t ∧ head = full.take 632 := by
  have hwrite {options : WriteOptions} (hform : options.alphanumeric = false) :
      Edit.toBytes options .unmeasured =
        .ok (Trace.encode { Trace.unmeasured with header := Trace.unmeasured.header.setLine .none }
          options)
          { Trace.unmeasured with header := Trace.unmeasured.header.setLine .none } := by
    refine Edit.toBytes_eq_ok_iff.2 ⟨?_, Trace.updateDistances_unmeasured, rfl, rfl⟩
    refine Trace.checkWritable_eq_ok_iff.2 ⟨by simp [hform], Or.inr (Or.inl ?_)⟩
    exact Option.some_ne_none _
  obtain ⟨hsuccess, hhead, -⟩ := toBytes_repeated .unmeasured {}
  refine ⟨_, _, _, fun hsame => ?_, hwrite rfl, (hsuccess _ _ (hwrite rfl)).2.2, hwrite rfl,
    (hhead none none _ _ _ _ rfl (hwrite rfl) (hwrite rfl)).1⟩
  -- the direction is known by now
  have hazimuth : (Floating.zero false : Double).narrow = nullReal := by
    have hstored := congrArg (fun t : Trace => t.header.storedReal Header.azimuthSlot) hsame
    rwa [Header.storedReal_setLine, if_neg (by decide), if_neg (by decide), if_pos rfl] at hstored
  exact absurd hazimuth (by decide +kernel)

end Seismogram
