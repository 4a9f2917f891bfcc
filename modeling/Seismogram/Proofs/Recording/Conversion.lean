/-
# A trace made into a recording and back

The header values that a recording carries are the entries of the trace's header, so the way
back finds in each field what was read from it, and the default of a new trace where nothing
was (`keeps_of_held`).  Only the fields that a recording has something of its own for are
made anew: identifiers come back trimmed, the interval comes back through a 64-bit number,
which makes it quiet if it is no number, and the samples are counted as far as a header can
count (`toTrace_of_toRecording`).
-/
import Mathlib.Tactic.Common
import Seismogram.Proofs.Number.Exact
import Seismogram.Proofs.Recording.Stages

namespace Seismogram

open Seismogram.Number Seismogram.Time Seismogram.Outcome

/-! ### What is kept of a field -/

namespace Header

variable {h k : Header} {f : Field} {v : Value}

lemma logical?_eq_some_iff {name : String} {slot : Fin 40} {b : Bool} :
    h.logical? name slot = .ok (some b) ↔ h.storedInteger slot = ofBool b := by
  have hzero : (0 : Int32) ≠ nullInteger := by decide
  have hone : (1 : Int32) ≠ nullInteger := by decide
  rw [logical?]
  rcases hstored : h.integer? slot with _ | n
  · rw [integer?_eq_none_iff] at hstored
    rw [hstored]
    cases b <;> simp [ofBool, hzero.symm, hone.symm]
  · obtain ⟨-, rfl⟩ := integer?_eq_some_iff.1 hstored
    dsimp only
    cases b <;> split_ifs <;> simp [ofBool, *]

lemma get_of_mem (hf : f ∈ Schema.fields) : h.get f.name = h.value? f := by
  rw [get, Schema.field_eq_ok_iff.2 (Schema.find?_name_of_mem hf), ok_bind]

/-- A header has the value that a field has in another one, or the value of a new trace where
that is null. -/
structure Keeps (name : String) (h k : Header) : Prop where
  known : ∀ v, h.get name = .ok (some v) → k.get name = .ok (some v)
  unknown : h.get name = .ok none → k.get name = fresh.get name

lemma Keeps.of_sameCell {l : Header} (hk : Keeps f.name h k) (hf : f ∈ Schema.fields)
    (hl : SameCell f.cell k l) : Keeps f.name h l := by
  have hsame : l.get f.name = k.get f.name := by
    rw [get_of_mem hf, get_of_mem hf, value?_congr hl]
  exact ⟨fun v hv => hsame.trans (hk.known v hv), fun hv => hsame.trans (hk.unknown hv)⟩

/-- Nothing is kept of a name that there is no field of. -/
lemma keeps_of_unknown {name : String} (hname : Schema.find? name = none) : Keeps name h k := by
  have herror (h : Header) : h.get name = .error (.unknownField name) := by
    rw [get, Schema.field, hname, error_bind]
  refine ⟨fun v hv => ?_, fun hv => ?_⟩
  · exact absurd ((herror h).symm.trans hv) (by simp)
  · exact absurd ((herror h).symm.trans hv) (by simp)

end Header

open Header

/-! ### The recording of a trace -/

/-- What the recording of a trace has, besides the number of its samples. -/
structure Trace.Recorded (t : Trace) (values : List (String × Value)) (r : Recording) : Prop where
  entries : t.header.entries = .ok values
  headers : r.headers = some (.ofList values)
  start : shift t.referenceTimeOrEpoch
    (((t.header.real? beginSlot).map Floating.widen).getD (.zero false)) = .ok r.start
  interval : r.interval = ((t.header.real? deltaSlot).map Floating.widen).getD (.ofInt 1)
  samples : r.samples = t.samples.getD []
  network : r.network = (TextName.knetwk.get t.header).getD ""
  station : r.station = (TextName.kstnm.get t.header).getD ""
  location : r.location = (TextName.khole.get t.header).getD ""
  channel : r.channel = (TextName.kcmpnm.get t.header).getD ""

namespace Trace

variable {t out : Trace} {r : Recording} {values : List (String × Value)}
variable {f : Field} {v : Value} {middle stored : Header}

lemma exists_recorded (hrecord : t.toRecording = .ok r) : ∃ values, t.Recorded values r := by
  simp only [toRecording, bind_eq_ok_iff, Except.ok.injEq] at hrecord
  obtain ⟨values, hvalues, start, hstart, rfl⟩ := hrecord
  exact ⟨values, hvalues, rfl, hstart, rfl, rfl, rfl, rfl, rfl, rfl⟩

lemma exists_toRecording {start : Instant} (hvalues : t.header.entries = .ok values)
    (hstart : shift t.referenceTimeOrEpoch
      (((t.header.real? beginSlot).map Floating.widen).getD (.zero false)) = .ok start) :
    ∃ r, t.toRecording = .ok r ∧ r.start = start := by
  simp only [toRecording, hvalues, hstart, ok_bind]
  exact ⟨_, rfl, rfl⟩

/-- A recording carries the values that are read from the fields. -/
lemma mem_headers_iff (hvalues : t.header.entries = .ok values) (hf : f ∈ Schema.fields) :
    (f.name, v) ∈ (HeaderMap.ofList values).entries ↔ t.header.value? f = .ok (some v) := by
  rw [← HeaderMap.get?_eq_some_iff, HeaderMap.get?_ofList_eq_some_iff
    (names_nodup_of_entries hvalues), mem_entries_iff hvalues hf]

lemma get?_headers (hvalues : t.header.entries = .ok values) (hf : f ∈ Schema.fields)
    {x : Option Value} (hx : t.header.value? f = .ok x) :
    (HeaderMap.ofList values).get? f.name = x := by
  refine Option.ext fun v => ?_
  rw [HeaderMap.get?_eq_some_iff, mem_headers_iff hvalues hf, hx, Except.ok.injEq]

/-- The values give a reference time if none of its six fields is null. -/
lemma givesReferenceTime_iff (hvalues : t.header.entries = .ok values) :
    Recording.givesReferenceTime (.ofList values) = true ↔ t.header.ReferenceKnown := by
  rw [Recording.givesReferenceTime, List.all_eq_true, ReferenceKnown]
  refine forall_congr' fun field => forall_congr' fun hfield => ?_
  obtain ⟨n, rfl⟩ := EqExceptFields.exists_integerName field hfield
  obtain ⟨f, hf, hcell⟩ := Option.map_eq_some_iff.1 n.find?_name
  obtain ⟨hmem, hname⟩ := Schema.find?_eq_some hf
  have hvalue : t.header.value? f = .ok ((t.header.integer? n.slot).map .integer) := by
    rw [value?, hcell]
  dsimp only
  rw [← hname, get?_headers hvalues hmem hvalue]
  cases t.header.integer? n.slot <;> simp

/-- The values that are stored on the way back are those that were read. -/
lemma keeps_of_held (hvalues : t.header.entries = .ok values)
    (hheld : Recording.Held (.ofList values) middle stored) (hf : f ∈ Schema.fields)
    (htext : t.header.FieldWellFormed f) : Keeps f.name t.header stored := by
  obtain ⟨habsent, hpresent, -⟩ := hheld.stored_field hf
  refine ⟨fun v hv => ?_, fun hv => ?_⟩
  · rw [get_of_mem hf] at hv ⊢
    obtain ⟨g, k, hk, hsame⟩ :=
      hpresent v ((mem_headers_iff hvalues hf).2 hv) (isTime_of_value? hv)
    obtain ⟨k', hk', hread⟩ := store_of_value? (k := g) hf htext hv
    obtain rfl := Except.ok.inj (hk.symm.trans hk')
    rw [value?_congr hsame, hread]
  · rw [get_of_mem hf] at hv ⊢
    rw [get_of_mem hf, value?_congr (habsent fun v hmem => ?_)]
    exact absurd (hv.symm.trans ((mem_headers_iff hvalues hf).1 hmem)) (by simp)

lemma distancesFollow_of_held (hvalues : t.header.entries = .ok values)
    (hheld : Recording.Held (.ofList values) middle stored) :
    ∃ flag, t.header.distancesFollow = .ok flag ∧
      stored.distancesFollow = .ok (some (flag.getD false)) := by
  obtain ⟨f, hfound, hcell⟩ := Option.map_eq_some_iff.1 cell_lcalda
  obtain ⟨hf, hname⟩ := Schema.find?_eq_some hfound
  have hread (h : Header) :
      h.value? f = h.distancesFollow >>= fun flag => .ok (flag.map .logical) := by
    simp only [value?, hcell, distancesFollow, hname]
  have hvalue {h : Header} {b : Bool} :
      h.value? f = .ok (some (.logical b)) ↔ h.distancesFollow = .ok (some b) := by
    simp [hread, bind_eq_ok_iff]
  have hfresh : fresh.distancesFollow = .ok (some false) :=
    logical?_eq_some_iff.2 storedInteger_fresh_distancesFollow
  obtain ⟨hknown, hunknown⟩ :=
    keeps_of_held hvalues hheld hf fun span hspan => absurd (hcell.symm.trans hspan) (by simp)
  simp only [get_of_mem hf] at hknown hunknown
  obtain ⟨x, hx⟩ := exists_entries_iff.1 ⟨values, hvalues⟩ f hf
  rw [hread, bind_eq_ok_iff] at hx
  obtain ⟨flag, hflag, -⟩ := hx
  refine ⟨flag, hflag, hvalue.1 ?_⟩
  cases flag with
  | none =>
      rw [hunknown (by rw [hread, hflag]; rfl)]
      exact hvalue.2 hfresh
  | some b => exact hknown _ (hvalue.2 hflag)

lemma real?_of_held_eq_none (hvalues : t.header.entries = .ok values)
    (hheld : Recording.Held (.ofList values) middle stored) (n : Coordinate)
    (hnull : t.header.real? n.slot = none) : stored.real? n.slot = none := by
  obtain ⟨f, hfound, hcell⟩ := Option.map_eq_some_iff.1 n.find?_name
  obtain ⟨hf, -⟩ := Schema.find?_eq_some hfound
  have hread (h : Header) : h.value? f = .ok ((h.real? n.slot).map .real) := by
    rw [value?, hcell]
  have hfresh : fresh.real? n.slot = none := by
    rw [real?_eq_none_iff, storedReal_fresh] <;> cases n <;> decide
  have hkeeps := keeps_of_held hvalues hheld hf fun span hspan =>
    absurd (hcell.symm.trans hspan) (by simp)
  have hstored := hkeeps.unknown (by rw [get_of_mem hf, hread, hnull]; rfl)
  rw [get_of_mem hf, get_of_mem hf, hread, hread, hfresh] at hstored
  simpa using hstored

/-- Distances are not asked for on the way back unless the flag and the coordinates of the
trace ask for them. -/
lemma keepsDistances_of_held (hvalues : t.header.entries = .ok values)
    (hheld : Recording.Held (.ofList values) middle stored)
    (hfollow : ¬(t.header.distancesFollow = .ok (some true) ∧
      ∀ slot ∈ coordinateSlots, t.header.real? slot ≠ none)) : stored.KeepsDistances := by
  obtain ⟨flag, hflag, hstored⟩ := distancesFollow_of_held hvalues hheld
  rw [distancesFollow, logical?_eq_some_iff] at hstored
  by_cases htrue : flag = some true
  · subst htrue
    obtain ⟨slot, hslot, hnull⟩ : ∃ slot ∈ coordinateSlots, t.header.real? slot = none := by
      by_contra hset
      refine hfollow ⟨hflag, fun slot hslot hnull => hset ⟨slot, hslot, hnull⟩⟩
    refine Or.inr (Or.inr ⟨hstored, slot, hslot, ?_⟩)
    simp only [coordinateSlots, List.mem_cons, List.not_mem_nil, or_false] at hslot
    rcases hslot with rfl | rfl | rfl | rfl
    · exact real?_of_held_eq_none hvalues hheld .stla hnull
    · exact real?_of_held_eq_none hvalues hheld .stlo hnull
    · exact real?_of_held_eq_none hvalues hheld .evla hnull
    · exact real?_of_held_eq_none hvalues hheld .evlo hnull
  · have hfalse : flag.getD false = false := by
      rcases flag with _ | _ | _ <;> simp_all
    rw [hfalse] at hstored
    exact Or.inl hstored

/-! ### The way back succeeds -/

lemma exists_held (hvalues : t.header.entries = .ok values) (htext : t.header.TextWellFormed) :
    ∃ h, Recording.Held (.ofList values) h h := by
  have hread : ∀ entry ∈ (HeaderMap.ofList values).entries, ∃ f ∈ Schema.fields,
      f.name = entry.1 ∧ t.header.value? f = .ok (some entry.2) := by
    rintro ⟨name, v⟩ hentry
    rw [← HeaderMap.get?_eq_some_iff, HeaderMap.get?_ofList_eq_some_iff
      (names_nodup_of_entries hvalues)] at hentry
    obtain ⟨f, hf, w, hw, heq⟩ := exists_of_mem_entries hvalues hentry
    obtain ⟨rfl, rfl⟩ := Prod.mk.inj heq
    exact ⟨f, hf, rfl, hw⟩
  have hothers : ∀ entry ∈ (HeaderMap.ofList values).entries, entry.2.isTime = false := by
    intro entry hentry
    obtain ⟨f, -, -, hv⟩ := hread entry hentry
    exact isTime_of_value? hv
  obtain ⟨h, hh⟩ := exists_storeAll (h := fresh) fun entry hentry => by
    obtain ⟨f, hf, hname, hv⟩ := hread entry hentry
    refine ⟨f, hname ▸ Schema.find?_name_of_mem hf, fun g => ?_⟩
    obtain ⟨next, hnext, -⟩ := store_of_value? (k := g) hf (htext.field hf) hv
    exact ⟨next, hnext⟩
  exact ⟨h, (storeOthers_eq hothers).trans hh, storeTimes_eq_self hothers⟩

/-- The reference time is stored on the way back. -/
lemma referenceTime_of_held (hvalues : t.header.entries = .ok values)
    (hheld : Recording.Held (.ofList values) middle stored) (hknown : t.header.ReferenceKnown) :
    stored.referenceTime = t.header.referenceTime := by
  refine referenceTime_congr fun field hfield => ?_
  have hsome := hknown field hfield
  obtain ⟨n, rfl⟩ := EqExceptFields.exists_integerName field hfield
  obtain ⟨f, hfound, hcell⟩ := Option.map_eq_some_iff.1 n.find?_name
  obtain ⟨hf, -⟩ := Schema.find?_eq_some hfound
  have hread (h : Header) : h.value? f = .ok ((h.integer? n.slot).map .integer) := by
    rw [value?, hcell]
  obtain ⟨x, hx⟩ := Option.ne_none_iff_exists'.1 hsome
  have hkeeps := keeps_of_held hvalues hheld hf fun span hspan =>
    absurd (hcell.symm.trans hspan) (by simp)
  have hstored := hkeeps.known (.integer x) (by rw [get_of_mem hf, hread, hx]; rfl)
  rw [get_of_mem hf, hread, Except.ok.injEq, Option.map_eq_some_iff] at hstored
  obtain ⟨y, hy, hxy⟩ := hstored
  rw [(integer?_eq_some_iff.1 hy).2, (integer?_eq_some_iff.1 hx).2]
  exact Value.integer.inj hxy

/-- A trace with a reference time that does not ask for distances can be made again from its
recording. -/
lemma exists_toTrace {reference : Instant} (hrecord : t.toRecording = .ok r)
    (hreference : t.header.referenceTime = .ok reference) (htext : t.header.TextWellFormed)
    (hfollow : ¬(t.header.distancesFollow = .ok (some true) ∧
      ∀ slot ∈ coordinateSlots, t.header.real? slot ≠ none)) : ∃ out, r.toTrace = .ok out := by
  obtain ⟨values, hvalues, hheaders, -⟩ := exists_recorded hrecord
  obtain ⟨stored, hheld⟩ := exists_held hvalues htext
  have hknown := referenceKnown_of_referenceTime hreference
  have hkeeps := keepsDistances_of_held hvalues hheld hfollow
  have hgiven := (givesReferenceTime_iff hvalues).2 hknown
  have hidentified := (Recording.eqExceptFields_identify (r := r) stored).referenceTime_eq
    (by decide)
  rw [referenceTime_of_held hvalues hheld hknown, hreference] at hidentified
  have hrefer : r.refer (r.identify stored) = .ok (r.identify stored) :=
    Recording.refer_eq_ok_iff.2 (Or.inl ⟨by rw [hheaders, Option.any_some, hgiven], rfl⟩)
  exact Recording.Built.exists_toTrace_of_refer hheaders hheld hkeeps hrefer hidentified

end Trace

/-! ### There and back -/

namespace Recording

lemma nonEmpty_getD (o : Option String) : nonEmpty (o.getD "") = o.bind nonEmpty := by
  cases o <;> rfl

/-- What is taken of a text is its core, if that is not empty. -/
lemma exists_core (s : String) : ∃ core, Text.IsCore s.toList core ∧
    nonEmpty s = if core = [] then none else some (.ofList core) := by
  refine ⟨Text.trim s.toList, Text.isCore_trim _, ?_⟩
  rw [nonEmpty]
  cases Text.trim s.toList <;> simp

end Recording

lemma TextName.get_setText (n : TextName) (h : Header) (o : Option String) :
    n.get (h.setText n.span o) = o.bind fun s => n.get (h.setText n.span (some s)) := by
  cases o with
  | none => exact text?_setText_none (by cases n <;> exact Nat.succ_pos _)
  | some s => rfl

/-- The interval comes back through a 64-bit number, and is no sentinel then either. -/
lemma narrow_interval (x : Option Single) :
    ((x.map Floating.widen).getD (.ofInt 1)).narrow =
      x.elim (.ofInt 1) fun x => if x.isNaN then x.quiet else x := by
  cases x with
  | none =>
      exact Floating.narrow_ofInt (by decide)
  | some x => exact Floating.narrow_widen x

lemma interval_ne_nullReal {h : Header} : ((h.real? deltaSlot).elim (.ofInt 1) fun x =>
    if x.isNaN then x.quiet else x : Single) ≠ nullReal := by
  rcases hx : h.real? deltaSlot with _ | x
  · exact mt ofInt_eq_nullReal_iff.1 (by decide)
  · rw [Option.elim_some]
    split
    · rename_i hnan
      intro hnull
      have hfinite : nullReal.magnitude < Format.single.infinity := by decide
      have hquiet := infinity_le_magnitude_quiet (Floating.isNaN_iff.1 hnan).le
      rw [hnull] at hquiet
      omega
    · exact (real?_eq_some_iff.1 hx).1

/-- The names that a recording has something of its own for, or that follow from coordinates. -/
lemma mem_writtenNames {name : String} (hname : name ∉ ["npts", "knetwk", "kstnm", "khole",
    "kcmpnm", "delta", "b", "e", "depmin", "depmax", "depmen", "dist", "az", "baz", "gcarc"]) :
    name ∉ Recording.Built.writtenNames ++ distanceNames := by
  refine fun hmem => hname ?_
  have hsubset : Recording.Built.writtenNames ++ distanceNames ⊆ ["npts", "knetwk", "kstnm",
      "khole", "kcmpnm", "delta", "b", "e", "depmin", "depmax", "depmen", "dist", "az", "baz",
      "gcarc"] := by
    decide
  exact hsubset hmem

/-- A field comes back if no stage writes it. -/
lemma keeps_of_built {t out : Trace} {values : List (String × Value)}
    {middle stored : Header} {names : List String} (hvalues : t.header.entries = .ok values)
    (hheld : Recording.Held (.ofList values) middle stored) (htext : t.header.TextWellFormed)
    (hsame : EqExceptFields names stored out.header) {name : String} (hname : name ∉ names) :
    Keeps name t.header out.header := by
  rcases hfound : Schema.find? name with _ | f
  · exact keeps_of_unknown hfound
  · obtain ⟨hf, rfl⟩ := Schema.find?_eq_some hfound
    exact (Trace.keeps_of_held hvalues hheld hf (htext.field hf)).of_sameCell hf (hsame f hf hname)

namespace Trace

variable {t out : Trace} {r : Recording}

lemma integer?_count_of_toRecording (hrecord : t.toRecording = .ok r)
    (hout : r.toTrace = .ok out) :
    out.header.integer? countSlot = some (Samples.count (t.samples.getD [])) := by
  obtain ⟨values, hr⟩ := exists_recorded hrecord
  obtain ⟨_, _, _, _, _, -, hb⟩ := Recording.exists_built hr.headers hout
  rw [hb.integer?_count, hr.samples]

lemma real?_delta_of_toRecording (hrecord : t.toRecording = .ok r) (hout : r.toTrace = .ok out) :
    out.header.real? deltaSlot = some ((t.header.real? deltaSlot).elim (.ofInt 1)
      fun x => if x.isNaN then x.quiet else x) := by
  obtain ⟨values, hr⟩ := exists_recorded hrecord
  obtain ⟨_, _, _, _, _, -, hb⟩ := Recording.exists_built hr.headers hout
  rw [real?_eq_some_iff, hb.storedReal_delta, hr.interval, narrow_interval]
  exact ⟨interval_ne_nullReal, rfl⟩

/-- An identifier comes back as it is read after its core was stored, and null if it has none. -/
lemma get_identifier_of_toRecording (hrecord : t.toRecording = .ok r) (hout : r.toTrace = .ok out)
    {n : TextName} (hn : n ∈ [TextName.knetwk, .kstnm, .khole, .kcmpnm]) :
    (n.get t.header = none → n.get out.header = none) ∧
      ∀ s, n.get t.header = some s → ∃ core, Text.IsCore s.toList core ∧ n.get out.header =
        if core = [] then none else n.get (t.header.setText n.span (some (.ofList core))) := by
  obtain ⟨values, hr⟩ := exists_recorded hrecord
  obtain ⟨_, _, _, _, _, -, hb⟩ := Recording.exists_built hr.headers hout
  obtain ⟨s, hs, hmem⟩ : ∃ s, s = (n.get t.header).getD "" ∧ (n, s) ∈ r.identifiers := by
    simp only [Recording.identifiers, hr.network, hr.station, hr.location, hr.channel]
    simp only [List.mem_cons, List.not_mem_nil, or_false] at hn
    rcases hn with rfl | rfl | rfl | rfl <;> exact ⟨_, rfl, by simp⟩
  have hidentifier : n.get out.header = ((n.get t.header).bind Recording.nonEmpty).bind
      fun s => n.get (t.header.setText n.span (some s)) := by
    rw [hb.get_identifier t.header hmem, hs, Recording.nonEmpty_getD, TextName.get_setText]
  constructor
  · intro hnull
    rw [hidentifier, hnull]
    rfl
  · intro s hs
    obtain ⟨core, hcore, htaken⟩ := Recording.exists_core s
    refine ⟨core, hcore, ?_⟩
    rw [hidentifier, hs, Option.bind_some, htaken]
    split <;> rfl

end Trace

/-- A trace with a reference time and well-formed text that is made into a recording and back:
its samples come back, counted as far as a header can count; so does every value of its header,
null ones as those of a new trace, besides the fields that describe samples, the time of the
first sample, and the distances if the flag and the coordinates ask for them.  The interval is
made quiet if it is no number, and is one second if it was null; an identifier comes back as it
is read after the core of its text was stored, and null if it was null or if there was nothing but
white space in it. -/
theorem toTrace_of_toRecording {t out : Trace} {r : Recording} (hknown : t.header.ReferenceKnown)
    (htext : t.header.TextWellFormed) (hrecord : t.toRecording = .ok r)
    (hout : r.toTrace = .ok out) :
    out.samples = some (t.samples.getD []) ∧
    out.header.integer? countSlot = some (Samples.count (t.samples.getD [])) ∧
    (∀ name ∉ ["npts", "knetwk", "kstnm", "khole", "kcmpnm", "delta", "b", "e", "depmin",
      "depmax", "depmen", "dist", "az", "baz", "gcarc"], Keeps name t.header out.header) ∧
    (¬(t.header.distancesFollow = .ok (some true) ∧
        ∀ slot ∈ coordinateSlots, t.header.real? slot ≠ none) →
      ∀ name ∈ ["dist", "az", "baz", "gcarc"], Keeps name t.header out.header) ∧
    out.header.real? deltaSlot = some ((t.header.real? deltaSlot).elim (.ofInt 1)
      fun x => if x.isNaN then x.quiet else x) ∧
    ∀ n ∈ [TextName.knetwk, .kstnm, .khole, .kcmpnm],
      (n.get t.header = none → n.get out.header = none) ∧
      ∀ s, n.get t.header = some s → ∃ core, Text.IsCore s.toList core ∧ n.get out.header =
        if core = [] then none else n.get (t.header.setText n.span (some (.ofList core))) := by
  obtain ⟨values, hr⟩ := Trace.exists_recorded hrecord
  obtain ⟨middle, stored, updated, referred, reference, hheld, hb⟩ :=
    Recording.exists_built hr.headers hout
  have hvalues := hr.entries
  -- the values give the reference time, so the start of the recording gives none
  have hrefer : EqExceptFields [] (r.identify updated) referred := by
    have hgiven := (Trace.givesReferenceTime_iff hvalues).2 hknown
    rcases Recording.refer_eq_ok_iff.1 hb.refer with ⟨-, rfl⟩ | ⟨hnot, -⟩
    · exact EqExceptFields.refl _
    · rw [hr.headers, Option.any_some, hgiven] at hnot
      exact absurd hnot (by simp)
  refine ⟨hb.samples.trans (congrArg some hr.samples),
    Trace.integer?_count_of_toRecording hrecord hout, fun name hname => ?_,
    fun hfollow name hname => ?_, Trace.real?_delta_of_toRecording hrecord hout,
    fun n hn => Trace.get_identifier_of_toRecording hrecord hout hn⟩
  · refine keeps_of_built hvalues hheld htext (hb.eqExceptFields hrefer) ?_
    rw [List.append_nil]
    exact mem_writtenNames hname
  · have hkeeps := Trace.keepsDistances_of_held hvalues hheld hfollow
    refine keeps_of_built hvalues hheld htext
      (hb.eqExceptFields_of_keeps hrefer (by simp) hkeeps) ?_
    have hother : ∀ name ∈ ["dist", "az", "baz", "gcarc"],
        name ∉ Recording.Built.writtenNames ++ [] := by
      decide
    exact hother name hname

/-! ### Evenly spaced samples from the start of 1970 on -/

namespace Header

variable {h : Header}

/-- A text that is stored is well formed, and the other fields of text are as before. -/
lemma TextWellFormed.setText (htext : h.TextWellFormed) (n : TextName) (s : Option String) :
    (h.setText n.span s).TextWellFormed := by
  intro m
  by_cases hname : m.name = n.name
  · have hcell := m.find?_name.symm.trans ((congrArg _ (congrArg _ hname)).trans n.find?_name)
    have hspan : m.span = n.span := Cell.text.inj (Option.some.inj hcell)
    obtain ⟨padding, -, hbytes⟩ := paddedText_eq n.span.width ((s.map String.toList).getD nullWord)
    exact ⟨_, by rw [hspan, textBytes_setText, hbytes]⟩
  · obtain ⟨text, hbytes⟩ := htext m
    have hsame := (eqExceptFields_setText n s (h := h)).sameCell m.find?_name (by simpa using hname)
    exact ⟨text, (textBytes_congr hsame).trans hbytes⟩

/-- A header whose flags and symbols are null can be read. -/
lemma exists_entries_of_null (hnull : ∀ slot : Fin 40, 6 ≤ slot → h.integer? slot = none) :
    ∃ values, h.entries = .ok values := by
  have hslots : ∀ f ∈ Schema.fields, (match f.cell with
      | .logical slot | .enumerated slot _ => decide (6 ≤ slot)
      | _ => true) = true := by
    decide +kernel
  refine exists_entries_iff.2 fun f hf => ?_
  have hslot := hslots f hf
  rw [value?]
  cases hcell : f.cell with
  | real | relativeTime | integer | text => exact ⟨_, rfl⟩
  | logical slot =>
      rw [hcell, decide_eq_true_eq] at hslot
      exact ⟨none, by simp only [logical?, hnull slot hslot, ok_bind, Option.map_none]⟩
  | enumerated slot accepted =>
      rw [hcell, decide_eq_true_eq] at hslot
      exact ⟨none, by simp only [symbol?, hnull slot hslot, ok_bind, Option.map_none]⟩

end Header

/-- A trace with samples that begins at its reference time, the start of 1970, and with a blank in
front of the name of its station. -/
def Trace.spaced (delta : Single) (samples : List Single) : Trace where
  header := (Trace.atEpoch.header.setReal deltaSlot (some delta)).setText TextName.kstnm.span
    (some " AB")
  samples := some samples
  order := .little

namespace Trace

variable (delta : Single) (samples : List Single)

lemma storedReal_spaced (slot : Fin 70) : (spaced delta samples).header.storedReal slot =
    if deltaSlot = slot then delta else atEpoch.header.storedReal slot := by
  dsimp only [spaced]
  rw [storedReal_congr (reals_setText _ _), storedReal_setReal, Option.getD_some]

lemma real?_delta_spaced {delta : Single} (hdelta : delta ≠ nullReal) :
    (spaced delta samples).header.real? deltaSlot = some delta :=
  real?_eq_some_iff.2 ⟨hdelta, (storedReal_spaced delta samples deltaSlot).trans (if_pos rfl)⟩

lemma referenceTime_spaced : (spaced delta samples).header.referenceTime = .ok .epoch :=
  (referenceTime_congr fun _ _ => rfl).trans referenceTime_atEpoch

lemma integer?_spaced (slot : Fin 40) (hslot : 6 ≤ slot) :
    (spaced delta samples).header.integer? slot = none := by
  rw [integer?_eq_none_iff]
  have hblank : (spaced delta samples).header.storedInteger slot = blank.storedInteger slot :=
    storedInteger_setReferenceFields _ hslot
  rw [hblank, storedInteger, blank]
  exact Vector.getElem_replicate _

lemma textWellFormed_spaced : (spaced delta samples).header.TextWellFormed :=
  (textWellFormed_of_blank rfl).setText .kstnm _

lemma distancesFollow_spaced : (spaced delta samples).header.distancesFollow = .ok none := by
  rw [distancesFollow, logical?, integer?_spaced _ _ _ (by decide)]

lemma exists_toTrace_spaced : ∃ r out, (spaced delta samples).toRecording = .ok r ∧
    r.toTrace = .ok out := by
  obtain ⟨values, hvalues⟩ := exists_entries_of_null (integer?_spaced delta samples)
  have hbegin : (spaced delta samples).header.real? beginSlot = some (.zero false) := by
    refine (real?_congr ?_).trans real?_atEpoch
    rw [storedReal_spaced, if_neg (by decide)]
  have hstart : shift .epoch (Floating.zero false : Single).widen = .ok .epoch := by
    decide +kernel
  have hreference : (spaced delta samples).referenceTimeOrEpoch = .epoch := by
    rw [referenceTimeOrEpoch, referenceTime_spaced]
  obtain ⟨r, hrecord, -⟩ := exists_toRecording hvalues (by
    rw [hreference, hbegin, Option.map_some, Option.getD_some, hstart])
  obtain ⟨out, hout⟩ := exists_toTrace hrecord (referenceTime_spaced _ _)
    (textWellFormed_spaced _ _) (by rw [distancesFollow_spaced]; simp)
  exact ⟨r, out, hrecord, hout⟩

end Trace

theorem toTrace_of_toRecording_spaced :
    ∃ r out, (Trace.spaced (.ofInt 2) [.zero false]).toRecording = .ok r ∧
      r.toTrace = .ok out ∧ out.samples = some [.zero false] ∧
      out.header.real? deltaSlot = some (.ofInt 2) ∧
      Keeps "o" (Trace.spaced (.ofInt 2) [.zero false]).header out.header ∧
      TextName.kstnm.get (Trace.spaced (.ofInt 2) [.zero false]).header = some " AB" ∧
      TextName.kstnm.get out.header = some "AB" := by
  obtain ⟨r, out, hrecord, hout⟩ := Trace.exists_toTrace_spaced (.ofInt 2) [.zero false]
  obtain ⟨hsamples, -, hkeeps, -, hdelta, hidentifiers⟩ := toTrace_of_toRecording
    (referenceKnown_of_referenceTime (Trace.referenceTime_spaced _ _))
    (Trace.textWellFormed_spaced _ _) hrecord hout
  have hstation : TextName.kstnm.get (Trace.spaced (.ofInt 2) [.zero false]).header =
      some " AB" := by
    decide +kernel
  obtain ⟨core, hcore, hback⟩ := (hidentifiers .kstnm (by simp)).2 _ hstation
  obtain rfl := Text.isCore_iff.1 hcore
  refine ⟨r, out, hrecord, hout, hsamples, ?_, hkeeps "o" (by simp), hstation,
    hback.trans (by decide +kernel)⟩
  rw [hdelta, Trace.real?_delta_spaced _ (by decide +kernel)]
  decide +kernel

/-- A signalling word in `delta` comes back quiet, and 2147483648 samples are counted as one
less. -/
theorem toTrace_of_toRecording_signalling :
    (∃ r out, (Trace.spaced ⟨0x7F800001⟩ []).toRecording = .ok r ∧ r.toTrace = .ok out ∧
      (Trace.spaced ⟨0x7F800001⟩ []).header.ReferenceKnown ∧
      (Trace.spaced ⟨0x7F800001⟩ []).header.TextWellFormed ∧
      (Trace.spaced ⟨0x7F800001⟩ []).header.real? deltaSlot = some ⟨0x7F800001⟩ ∧
      out.header.real? deltaSlot = some ⟨0x7FC00001⟩) ∧
    ∃ r out, (Trace.spaced (.ofInt 1) (.replicate 2147483648 (.zero false))).toRecording = .ok r ∧
      r.toTrace = .ok out ∧ out.header.integer? countSlot = some 2147483647 := by
  constructor
  · obtain ⟨r, out, hrecord, hout⟩ := Trace.exists_toTrace_spaced ⟨0x7F800001⟩ []
    have hset : (Trace.spaced ⟨0x7F800001⟩ []).header.real? deltaSlot = some ⟨0x7F800001⟩ :=
      Trace.real?_delta_spaced _ (by decide)
    refine ⟨r, out, hrecord, hout,
      referenceKnown_of_referenceTime (Trace.referenceTime_spaced _ _),
      Trace.textWellFormed_spaced _ _, hset, ?_⟩
    rw [Trace.real?_delta_of_toRecording hrecord hout, hset]
    decide
  · obtain ⟨r, out, hrecord, hout⟩ :=
      Trace.exists_toTrace_spaced (.ofInt 1) (.replicate 2147483648 (.zero false))
    refine ⟨r, out, hrecord, hout, ?_⟩
    rw [Trace.integer?_count_of_toRecording hrecord hout, Trace.spaced, Option.getD_some,
      Samples.count, List.length_replicate]
    rfl

end Seismogram
