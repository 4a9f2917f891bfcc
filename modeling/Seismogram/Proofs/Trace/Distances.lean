/-
# Distances that are never stale

The distances of a header are current if they are those of its coordinates wherever the flag
`lcalda` asks for them (`DistancesCurrent`).  Whatever stores a coordinate or the flag brings
them up to date, and an update that fails has nothing to be up to date with.  Hence they are
current in every trace that was not read from a file, as long as nothing is stored in their
own fields (`distances_after`).
-/
import Mathlib.Tactic.Common
import Seismogram.Proofs.Header.Fields
import Seismogram.Proofs.Header.ReferenceTime
import Seismogram.Proofs.Trace.Effect
import Seismogram.Proofs.Trace.Samples

namespace Seismogram

open Seismogram.Number Seismogram.Time Seismogram.Geodesy Seismogram.Outcome

namespace Header

variable {h k : Header}

/-- The header has the distances of a line. -/
structure HoldsLine (h : Header) (l : Line) : Prop where
  distance : h.storedReal distanceSlot = (l.metres.div (whole 1000)).narrow
  azimuth : h.storedReal azimuthSlot = l.azimuth.narrow
  backAzimuth : h.storedReal backAzimuthSlot = l.backAzimuth.narrow
  arc : h.storedReal arcSlot = (degreesOfArc (l.metres.div (whole 1000))).narrow

/-- Where the flag asks for it, the header has the distances of its coordinates. -/
def DistancesCurrent (h : Header) : Prop :=
  ∀ event station l, h.distancesFollow = .ok (some true) → h.points = .ok (event, station) →
    line event station = .ok l → h.HoldsLine l

lemma holdsLine_setLine (l : Line) : (h.setLine l).HoldsLine l where
  distance := by
    rw [storedReal_setLine, if_neg (by decide), if_neg (by decide), if_neg (by decide), if_pos rfl]
  azimuth := by rw [storedReal_setLine, if_neg (by decide), if_neg (by decide), if_pos rfl]
  backAzimuth := by rw [storedReal_setLine, if_neg (by decide), if_pos rfl]
  arc := by rw [storedReal_setLine, if_pos rfl]

/-! ### Headers with current distances -/

lemma distancesCurrent_setLine {event station : Point} {l : Line}
    (hpoints : h.points = .ok (event, station)) (hline : line event station = .ok l) :
    (h.setLine l).DistancesCurrent := by
  intro event' station' l' _ hpoints' hline'
  rw [(eqExceptDistances_setLine l).points_eq, hpoints, Except.ok.injEq, Prod.mk.injEq] at hpoints'
  obtain ⟨rfl, rfl⟩ := hpoints'
  obtain rfl := Except.ok.inj (hline.symm.trans hline')
  exact holdsLine_setLine l

/-- An update that succeeds leaves current distances. -/
lemma distancesCurrent_of_update (hk : h.updateDistances false = .ok k) : k.DistancesCurrent := by
  rcases updateDistances_inv hk with rfl | ⟨event, station, l, -, hpoints, hline, rfl⟩
  · -- nothing was stored, so that no line was there to be stored, or it was there already
    intro event station l hflag hpoints hline
    rw [updateDistances_of_points hflag hpoints, hline, ok_bind, Except.ok.injEq] at hk
    rw [← hk]
    exact holdsLine_setLine l
  · exact distancesCurrent_setLine hpoints hline

lemma distancesCurrent_refreshed (h : Header) : h.refreshed.DistancesCurrent := by
  rcases hk : h.updateDistances false with e | k
  · rw [refreshed_of_error hk]
    -- where the update fails there is no line
    intro event station l hflag hpoints hline
    rw [updateDistances_of_points hflag hpoints, hline, ok_bind] at hk
    exact absurd hk (by simp)
  · rw [refreshed_of_ok hk]
    exact distancesCurrent_of_update hk

lemma distancesCurrent_of_not_follow
    (hflag : h.storedInteger distancesFollowSlot = 0) : h.DistancesCurrent := by
  intro _ _ _ hfollow
  have hinteger : h.integer? distancesFollowSlot = some 0 :=
    integer?_eq_some_iff.2 ⟨by decide, hflag⟩
  rw [distancesFollow, logical?, hinteger] at hfollow
  exact absurd hfollow (by simp)

/-! ### Headers with the same distances -/

/-- Two headers agree in the distances and in all that these depend on. -/
structure SameDistances (h k : Header) : Prop where
  flag : k.storedInteger distancesFollowSlot = h.storedInteger distancesFollowSlot
  coordinates : ∀ slot ∈ coordinateSlots, k.storedReal slot = h.storedReal slot
  distances : ∀ slot ∈ distanceSlots, k.storedReal slot = h.storedReal slot

lemma SameDistances.current (hk : SameDistances h k) (hh : h.DistancesCurrent) :
    k.DistancesCurrent := by
  intro event station l hflag hpoints hline
  have hcoordinate {slot : Fin 70} (hslot : slot ∈ coordinateSlots) :
      k.real? slot = h.real? slot := real?_congr (hk.coordinates slot hslot)
  have hsame : k.points = h.points := by
    simp only [points, coordinate,
      hcoordinate (show stationLatitudeSlot ∈ coordinateSlots by decide),
      hcoordinate (show stationLongitudeSlot ∈ coordinateSlots by decide),
      hcoordinate (show eventLatitudeSlot ∈ coordinateSlots by decide),
      hcoordinate (show eventLongitudeSlot ∈ coordinateSlots by decide)]
  rw [distancesFollow, logical?, integer?_congr hk.flag] at hflag
  rw [hsame] at hpoints
  obtain ⟨hdistance, hazimuth, hback, harc⟩ := hh event station l hflag hpoints hline
  exact
    { distance := (hk.distances _ (by decide)).trans hdistance
      azimuth := (hk.distances _ (by decide)).trans hazimuth
      backAzimuth := (hk.distances _ (by decide)).trans hback
      arc := (hk.distances _ (by decide)).trans harc }

lemma movesDistances_of_integerSlot : ∀ f ∈ Schema.fields,
    f.cell.integerSlot? = some distancesFollowSlot → Edit.movesDistances f.cell = true := by
  decide +kernel

lemma name_of_distanceSlot : ∀ f ∈ Schema.fields, ∀ slot ∈ distanceSlots,
    f.cell.realSlot? = some slot → f.name ∈ ["dist", "az", "baz", "gcarc"] :=
  fun _ hf _ hmem hslot =>
    Schema.name_mem_of_realSlot [.dist, .az, .baz, .gcarc] hf hslot hmem

lemma sameDistances_of_cell {f : Field} (hfield : f ∈ Schema.fields)
    (hmoves : Edit.movesDistances f.cell = false) (hother : f.name ∉ ["dist", "az", "baz", "gcarc"])
    (hcell : EqExceptCell f.cell h k) : SameDistances h k where
  flag := by
    refine hcell.integers _ fun hslot => ?_
    have hyes := movesDistances_of_integerSlot f hfield hslot
    exact absurd (hmoves.symm.trans hyes) (by decide)
  coordinates slot hmem := by
    refine hcell.reals slot fun hslot => ?_
    -- distances depend on every cell that has the slot of a coordinate
    have hyes : ∀ slot ∈ coordinateSlots, Edit.movesDistances (.real slot) = true := by decide
    have hno := (movesDistances_of_realSlot hfield hslot).trans hmoves
    exact absurd ((hyes slot hmem).symm.trans hno) (by decide)
  distances slot hmem :=
    hcell.reals slot fun hslot => hother (name_of_distanceSlot f hfield slot hmem hslot)

/-- Neither coordinates nor distances are relative times. -/
lemma cell_ne_relativeTime : ∀ slot ∈ coordinateSlots ++ distanceSlots,
    ∀ f ∈ Schema.fields, f.cell ≠ .relativeTime slot := by
  decide +kernel

lemma sameDistances_of_moved {new : Instant} (hmoved : Moved new h k) : SameDistances h k where
  flag := hmoved.integers _ (by decide)
  coordinates slot hslot :=
    hmoved.others slot (cell_ne_relativeTime slot (List.mem_append_left _ hslot))
  distances slot hslot :=
    hmoved.others slot (cell_ne_relativeTime slot (List.mem_append_right _ hslot))

lemma sameDistances_describe (h : Header) (samples : List Single) :
    SameDistances h (h.describe samples) where
  flag := storedInteger_describe (by decide)
  coordinates slot hslot := by
    have hdisjoint : ∀ slot ∈ coordinateSlots, slot ∉ Folder.sampleSlots := by decide
    exact storedReal_describe (hdisjoint slot hslot)
  distances slot hslot := by
    have hdisjoint : ∀ slot ∈ distanceSlots, slot ∉ Folder.sampleSlots := by decide
    exact storedReal_describe (hdisjoint slot hslot)

/-- A new trace does not ask for distances. -/
lemma distancesCurrent_fresh : fresh.DistancesCurrent := by
  refine distancesCurrent_of_not_follow ?_
  rw [fresh, storedInteger_setReferenceFields _ (by decide), setLogical, storedInteger_setInteger,
    if_pos rfl]
  rfl

end Header

open Header

namespace Trace

variable {t t' : Trace}

/-! ### Traces that were not read -/

lemma distancesCurrent_toTrace {r : Recording} (hconvert : r.toTrace = .ok t) :
    t.header.DistancesCurrent := by
  simp only [Recording.toTrace, bind_eq_ok_iff, Except.ok.injEq] at hconvert
  obtain ⟨_, -, _, -, _, -, _, hupdate, rfl⟩ := hconvert
  exact distancesCurrent_of_update hupdate

lemma distancesCurrent_origin {origin : Origin} (hbegin : origin.trace = .ok t)
    (hreads : origin.reads = false) : t.header.DistancesCurrent := by
  cases origin with
  | new =>
      obtain rfl := Except.ok.inj hbegin
      exact distancesCurrent_fresh
  | values pairs samples =>
      simp only [Origin.trace, ofValues, bind_eq_ok_iff, Except.ok.injEq] at hbegin
      obtain ⟨_, -, _, -, _, hupdate, rfl⟩ := hbegin
      exact distancesCurrent_of_update hupdate
  | recording r => exact distancesCurrent_toTrace hbegin
  | bytes data options => exact absurd hreads (by simp [Origin.reads])
  | file d path options => exact absurd hreads (by simp [Origin.reads])

/-! ### Operations and histories -/

/-- An operation that does not read keeps the distances current, unless it is asked to store in
one of them. -/
lemma distancesCurrent_effect {op : Operation} (ht : t.header.DistancesCurrent)
    (heffect : op.Effect t t') (hreads : op.reads = false)
    (hop : ∀ name, op.field? = some name → name ∉ ["dist", "az", "baz", "gcarc"]) :
    t'.header.DistancesCurrent := by
  cases heffect with
  | kept => exact ht
  | stored hname hfield hmoves hcell =>
      obtain ⟨hmem, rfl⟩ := Schema.find?_eq_some hfield
      exact (sameDistances_of_cell hmem hmoves (hop _ hname) hcell).current ht
  | located => exact distancesCurrent_refreshed _
  | refreshed => exact distancesCurrent_refreshed _
  | computed hupdate =>
      obtain ⟨_, _, _, hpoints, hline, rfl⟩ := updateDistances_demanded_inv hupdate
      exact distancesCurrent_setLine hpoints hline
  | moved hmove =>
      obtain ⟨_, -, hmoved⟩ := moved_of_setReferenceTime hmove
      exact (sameDistances_of_moved hmoved).current ht
  | sampled samples =>
      cases samples with
      | none => exact ht
      | some samples => exact (sameDistances_describe t.header samples).current ht
  | ordered o => exact ht
  | read hread => exact absurd (hreads.symm.trans hread) (by simp)
  | converted hconvert => exact distancesCurrent_toTrace hconvert

end Trace

/-- However a trace came about other than by reading, and whatever was done to it since, but
for reading and for storing in the distances themselves: where the flag is true, no coordinate
is null and there is a line from the event to the station, the distances are those of the
line. -/
theorem distances_after {origin : Origin} {t : Trace} {history : List Operation}
    (hbegin : origin.trace = .ok t) (horigin : origin.reads = false)
    (hreads : ∀ op ∈ history, op.reads = false)
    (hother : ∀ op ∈ history, ∀ name, op.field? = some name →
      name ∉ ["dist", "az", "baz", "gcarc"])
    {stla stlo evla evlo : Single} {l : Line}
    (hflag : (t.after history).header.distancesFollow = .ok (some true))
    (hstla : (t.after history).header.real? stationLatitudeSlot = some stla)
    (hstlo : (t.after history).header.real? stationLongitudeSlot = some stlo)
    (hevla : (t.after history).header.real? eventLatitudeSlot = some evla)
    (hevlo : (t.after history).header.real? eventLongitudeSlot = some evlo)
    (hline : line ⟨evla.widen, evlo.widen⟩ ⟨stla.widen, stlo.widen⟩ = .ok l) :
    let now := (t.after history).header
    now.storedReal distanceSlot = (l.metres.div (whole 1000)).narrow ∧
      now.storedReal azimuthSlot = l.azimuth.narrow ∧
      now.storedReal backAzimuthSlot = l.backAzimuth.narrow ∧
      now.storedReal arcSlot = (degreesOfArc (l.metres.div (whole 1000))).narrow := by
  intro now
  have hcurrent : now.DistancesCurrent :=
    Trace.after_induction (P := (·.header.DistancesCurrent))
      (Trace.distancesCurrent_origin hbegin horigin) fun op hop _ _ heffect ht =>
        Trace.distancesCurrent_effect ht heffect (hreads op hop) (hother op hop)
  have hpoints : now.points = .ok (⟨evla.widen, evlo.widen⟩, ⟨stla.widen, stlo.widen⟩) := by
    simp only [now, points, coordinate, hstla, hstlo, hevla, hevlo, ok_bind]
  obtain ⟨hdistance, hazimuth, hback, harc⟩ := hcurrent _ _ l hflag hpoints hline
  exact ⟨hdistance, hazimuth, hback, harc⟩

/-! ### Station and event at two places -/

/-- The place that is set for a station or an event: 10° N 20° E and 30° N 40° E. -/
def Coordinate.placed : Coordinate → Single
  | .stla => .ofInt 10
  | .stlo => .ofInt 20
  | .evla => .ofInt 30
  | .evlo => .ofInt 40

/-- Station and event put at two places, and distances asked for. -/
def Operation.twoPlaces : List Operation :=
  [.assignCoordinate .stla (some Coordinate.stla.placed),
   .assignCoordinate .stlo (some Coordinate.stlo.placed),
   .assignCoordinate .evla (some Coordinate.evla.placed),
   .assignCoordinate .evlo (some Coordinate.evlo.placed), .assignDistancesFollow (some true)]

lemma Operation.after_assignCoordinate (n : Coordinate) (x : Option Single) (t : Trace) :
    (assignCoordinate n x).after t =
      { t with header := (t.header.setReal n.slot x).refreshed } := by
  have hedit : (assignCoordinate n x).edit t
      = Edit.updateDistances false { t with header := t.header.setReal n.slot x } := rfl
  rw [after_of_updateDistances hedit]

lemma Operation.after_assignDistancesFollow (b : Option Bool) (t : Trace) :
    (assignDistancesFollow b).after t =
      { t with header := (t.header.setLogical distancesFollowSlot b).refreshed } := by
  have hedit : (assignDistancesFollow b).edit t = Edit.updateDistances false
      { t with header := t.header.setLogical distancesFollowSlot b } := rfl
  rw [after_of_updateDistances hedit]

lemma Trace.real?_twoPlaces (n : Coordinate) :
    (new.after Operation.twoPlaces).header.real? n.slot = some n.placed := by
  refine real?_eq_some_iff.2 ⟨by cases n <;> decide +kernel, ?_⟩
  simp only [after, Operation.twoPlaces, List.foldl_cons, List.foldl_nil,
    Operation.after_assignCoordinate, Operation.after_assignDistancesFollow]
  cases n <;> simp (disch := decide) only [storedReal_refreshed, setLogical,
    storedReal_setInteger, storedReal_setReal, Coordinate.slot, Option.getD_some] <;> rfl

lemma Trace.distancesFollow_twoPlaces :
    (new.after Operation.twoPlaces).header.distancesFollow = .ok (some true) := by
  simp only [after, Operation.twoPlaces, List.foldl_cons, List.foldl_nil,
    Operation.after_assignDistancesFollow]
  rw [(eqExceptDistances_refreshed _).distancesFollow_eq, distancesFollow_setLogical]

/-- There is a line from the event to the station, since both latitudes are on the earth. -/
lemma exists_line_twoPlaces :
    ∃ l, line ⟨Coordinate.evla.placed.widen, Coordinate.evlo.placed.widen⟩
      ⟨Coordinate.stla.placed.widen, Coordinate.stlo.placed.widen⟩ = .ok l := by
  have hevent : BetweenPoles Coordinate.evla.placed := isLatitude_widen_iff.1 (by decide +kernel)
  have hstation : BetweenPoles Coordinate.stla.placed := isLatitude_widen_iff.1 (by decide +kernel)
  rcases hline : line _ _ with e | l
  · rcases line_eq_error_iff.1 hline with ⟨hbeyond, -⟩ | ⟨-, hbeyond, -⟩
    · exact absurd hevent hbeyond
    · exact absurd hstation hbeyond
  · exact ⟨l, rfl⟩

theorem distances_after_twoPlaces :
    let now := (Trace.new.after Operation.twoPlaces).header
    ∃ l, line ⟨(Floating.ofInt 30 : Single).widen, (Floating.ofInt 40 : Single).widen⟩
        ⟨(Floating.ofInt 10 : Single).widen, (Floating.ofInt 20 : Single).widen⟩ = .ok l ∧
      now.storedReal distanceSlot = (l.metres.div (whole 1000)).narrow ∧
      now.storedReal azimuthSlot = l.azimuth.narrow ∧
      now.storedReal backAzimuthSlot = l.backAzimuth.narrow ∧
      now.storedReal arcSlot = (degreesOfArc (l.metres.div (whole 1000))).narrow := by
  obtain ⟨l, hline⟩ := exists_line_twoPlaces
  have hbegin : Origin.new.trace = .ok Trace.new := rfl
  exact ⟨l, hline, distances_after hbegin rfl (by decide) (by decide)
    Trace.distancesFollow_twoPlaces (Trace.real?_twoPlaces .stla) (Trace.real?_twoPlaces .stlo)
    (Trace.real?_twoPlaces .evla) (Trace.real?_twoPlaces .evlo) hline⟩

end Seismogram
