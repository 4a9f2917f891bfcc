/-
# What bringing the distances up to date changes

The distance, its arc and the two directions are computed from four other fields.  Hence
they are all that an update changes (`eqExceptDistances_of_update`), and a second update
computes what the first one stored (`updateDistances_idem`).  It fails exactly where the flag is
no truth value, or is true and a latitude lies beyond a pole (`updateDistances_eq_error_iff`).
-/
import Mathlib.Tactic.Common
import Seismogram.Header.Distances
import Seismogram.Proofs.Header.Slots
import Seismogram.Proofs.Number.Order
import Seismogram.Proofs.Outcome

namespace Seismogram.Header

open Seismogram.Number Seismogram.Geodesy Seismogram.Outcome

/-- The slots that follow from the coordinates. -/
def distanceSlots : List (Fin 70) := [distanceSlot, azimuthSlot, backAzimuthSlot, arcSlot]

/-- The names of the fields that follow from the coordinates. -/
def distanceNames : List String := ["dist", "az", "baz", "gcarc"]

/-- The slots of the coordinates. -/
def coordinateSlots : List (Fin 70) :=
  [stationLatitudeSlot, stationLongitudeSlot, eventLatitudeSlot, eventLongitudeSlot]

/-- Two headers differ at most in what follows from the coordinates. -/
structure EqExceptDistances (h k : Header) : Prop where
  reals : ∀ slot : Fin 70, slot ∉ distanceSlots → k.storedReal slot = h.storedReal slot
  integers : k.integers = h.integers
  text : k.text = h.text

/-- The stored flag and coordinates leave the distances as they are: the flag is false or
null, or it is true and a coordinate is null. -/
def KeepsDistances (h : Header) : Prop :=
  h.storedInteger distancesFollowSlot = 0 ∨ h.storedInteger distancesFollowSlot = nullInteger ∨
    (h.storedInteger distancesFollowSlot = 1 ∧ ∃ slot ∈ coordinateSlots, h.real? slot = none)

namespace EqExceptDistances

variable {h k : Header}

lemma refl (h : Header) : EqExceptDistances h h :=
  ⟨fun _ _ => rfl, rfl, rfl⟩

lemma real?_eq (hk : EqExceptDistances h k) {slot : Fin 70} (hs : slot ∉ distanceSlots) :
    k.real? slot = h.real? slot :=
  real?_congr (hk.reals slot hs)

lemma storedInteger_eq (hk : EqExceptDistances h k) (slot : Fin 40) :
    k.storedInteger slot = h.storedInteger slot :=
  storedInteger_congr hk.integers slot

lemma integer?_eq (hk : EqExceptDistances h k) (slot : Fin 40) :
    k.integer? slot = h.integer? slot :=
  integer?_congr (hk.storedInteger_eq slot)

/-- The coordinates are not among the fields that follow from them. -/
lemma points_eq (hk : EqExceptDistances h k) : k.points = h.points := by
  simp only [points, coordinate, hk.real?_eq (show stationLatitudeSlot ∉ distanceSlots by decide),
    hk.real?_eq (show stationLongitudeSlot ∉ distanceSlots by decide),
    hk.real?_eq (show eventLatitudeSlot ∉ distanceSlots by decide),
    hk.real?_eq (show eventLongitudeSlot ∉ distanceSlots by decide)]

lemma distancesFollow_eq (hk : EqExceptDistances h k) :
    k.distancesFollow = h.distancesFollow := by
  simp only [distancesFollow, logical?, hk.integer?_eq]

lemma sampleCount_eq (hk : EqExceptDistances h k) : k.sampleCount = h.sampleCount := by
  simp only [sampleCount, hk.integer?_eq]

end EqExceptDistances

variable {h k : Header}

/-! ### Storing a line -/

lemma storedReal_setLine (l : Line) (slot : Fin 70) :
    (h.setLine l).storedReal slot =
      if arcSlot = slot then (degreesOfArc (l.metres.div (whole 1000))).narrow
      else if backAzimuthSlot = slot then l.backAzimuth.narrow
      else if azimuthSlot = slot then l.azimuth.narrow
      else if distanceSlot = slot then (l.metres.div (whole 1000)).narrow
      else h.storedReal slot := by
  simp only [setLine, storedReal_setReal, Option.getD_some]

lemma eqExceptDistances_setLine (l : Line) : EqExceptDistances h (h.setLine l) := by
  refine ⟨fun slot hs => ?_, rfl, rfl⟩
  simp only [distanceSlots, List.mem_cons, List.not_mem_nil, or_false, not_or] at hs
  obtain ⟨hd, ha, hb, hc⟩ := hs
  rw [storedReal_setLine, if_neg (Ne.symm hc), if_neg (Ne.symm hb), if_neg (Ne.symm ha),
    if_neg (Ne.symm hd)]

lemma setLine_setLine (l : Line) : (h.setLine l).setLine l = h.setLine l := by
  refine ext_slots (fun slot => ?_) (fun _ => rfl) rfl
  simp only [storedReal_setLine]
  split_ifs <;> rfl

/-! ### The points of a line -/

/-- There is no line exactly where a coordinate is null. -/
lemma points_eq_error_iff :
    (∃ missing, h.points = .error missing) ↔ ∃ slot ∈ coordinateSlots, h.real? slot = none := by
  simp only [points, coordinate, coordinateSlots, List.mem_cons, List.not_mem_nil, or_false,
    exists_eq_or_imp, exists_eq_left]
  cases h.real? stationLatitudeSlot <;> cases h.real? stationLongitudeSlot <;>
    cases h.real? eventLatitudeSlot <;> cases h.real? eventLongitudeSlot <;> simp

/-! ### An update -/

/-- All that an update can do: nothing, or store the line of the coordinates where the flag
is true. -/
lemma updateDistances_inv (hk : h.updateDistances false = .ok k) :
    k = h ∨ ∃ event station l, h.distancesFollow = .ok (some true) ∧
      h.points = .ok (event, station) ∧ line event station = .ok l ∧ k = h.setLine l := by
  simp only [updateDistances, Bool.false_eq_true, if_false, bind_eq_ok_iff] at hk
  obtain ⟨flag, hflag, hk⟩ := hk
  by_cases htrue : flag = some true
  · subst htrue
    rw [if_pos rfl, computeDistances] at hk
    rcases hp : h.points with missing | ⟨event, station⟩
    · simp only [hp, Bool.false_eq_true, if_false, Except.ok.injEq] at hk
      exact Or.inl hk.symm
    · simp only [hp, bind_eq_ok_iff, Except.ok.injEq] at hk
      obtain ⟨l, hl, rfl⟩ := hk
      exact Or.inr ⟨event, station, l, hflag, rfl, hl, rfl⟩
  · rw [if_neg htrue, Except.ok.injEq] at hk
    exact Or.inl hk.symm

/-- Where the flag is true and the coordinates are there, the line between them is stored. -/
lemma updateDistances_of_points {event station : Point}
    (hflag : h.distancesFollow = .ok (some true)) (hp : h.points = .ok (event, station)) :
    h.updateDistances false = line event station >>= fun l => .ok (h.setLine l) := by
  simp only [updateDistances, Bool.false_eq_true, if_false, hflag, ok_bind, if_true,
    computeDistances, hp]

/-- On demand the line of the coordinates is stored, whatever the flag. -/
lemma updateDistances_demanded_inv (hk : h.updateDistances true = .ok k) :
    ∃ event station l, h.points = .ok (event, station) ∧ line event station = .ok l ∧
      k = h.setLine l := by
  rw [updateDistances, if_pos rfl, computeDistances] at hk
  rcases hp : h.points with missing | ⟨event, station⟩
  · simp [hp] at hk
  · simp only [hp, bind_eq_ok_iff, Except.ok.injEq] at hk
    obtain ⟨l, hl, rfl⟩ := hk
    exact ⟨event, station, l, rfl, hl, rfl⟩

/-- An update changes nothing but what follows from the coordinates. -/
lemma eqExceptDistances_of_update (hk : h.updateDistances false = .ok k) :
    EqExceptDistances h k := by
  rcases updateDistances_inv hk with rfl | ⟨_, _, l, -, -, -, rfl⟩
  · exact EqExceptDistances.refl k
  · exact eqExceptDistances_setLine l

/-- An updated header is up to date. -/
lemma updateDistances_idem (hk : h.updateDistances false = .ok k) :
    k.updateDistances false = .ok k := by
  have heq := eqExceptDistances_of_update hk
  rcases updateDistances_inv hk with rfl | ⟨event, station, l, hflag, hp, hl, rfl⟩
  · exact hk
  · simp [updateDistances, computeDistances, heq.distancesFollow_eq, heq.points_eq, hflag, hp, hl,
      setLine_setLine]

/-- Where the distances are to be kept, an update succeeds and changes nothing. -/
lemma updateDistances_of_keeps (hkeep : h.KeepsDistances) : h.updateDistances false = .ok h := by
  rcases hkeep with hzero | hnull | ⟨hone, hmissing⟩
  · have hflag : h.integer? distancesFollowSlot = some 0 :=
      integer?_eq_some_iff.2 ⟨by decide, hzero⟩
    simp [updateDistances, distancesFollow, logical?, hflag]
  · have hflag : h.integer? distancesFollowSlot = none := integer?_eq_none_iff.2 hnull
    simp [updateDistances, distancesFollow, logical?, hflag]
  · have hflag : h.integer? distancesFollowSlot = some 1 :=
      integer?_eq_some_iff.2 ⟨by decide, hone⟩
    obtain ⟨missing, hp⟩ := points_eq_error_iff.2 hmissing
    simp [updateDistances, distancesFollow, logical?, hflag, computeDistances, hp]

/-! ### An update that may fail -/

/-- The header with its distances brought up to date, or as it is where that fails. -/
def refreshed (h : Header) : Header :=
  match h.updateDistances false with
  | .ok k => k
  | .error _ => h

lemma refreshed_of_ok (hk : h.updateDistances false = .ok k) : h.refreshed = k := by
  rw [refreshed, hk]

lemma refreshed_of_error {e : Error} (he : h.updateDistances false = .error e) :
    h.refreshed = h := by
  rw [refreshed, he]

lemma eqExceptDistances_refreshed (h : Header) : EqExceptDistances h h.refreshed := by
  rcases hk : h.updateDistances false with e | k
  · rw [refreshed_of_error hk]
    exact EqExceptDistances.refl h
  · rw [refreshed_of_ok hk]
    exact eqExceptDistances_of_update hk

lemma storedReal_refreshed {slot : Fin 70} (hslot : slot ∉ distanceSlots) :
    h.refreshed.storedReal slot = h.storedReal slot :=
  (eqExceptDistances_refreshed h).reals slot hslot

/-- A truth value that is stored in the flag is read from it. -/
lemma distancesFollow_setLogical (b : Bool) :
    (h.setLogical distancesFollowSlot (some b)).distancesFollow = .ok (some b) := by
  have hflag : (h.setLogical distancesFollowSlot (some b)).integer? distancesFollowSlot
      = some (ofBool b) := by
    refine integer?_eq_some_iff.2 ⟨by cases b <;> decide, ?_⟩
    rw [setLogical, storedInteger_setInteger, if_pos rfl]
    rfl
  rw [distancesFollow, logical?, hflag]
  cases b <;> rfl

/-! ### An update that fails -/

/-- The angle lies between the poles: it is a number from -90 to 90. -/
def BetweenPoles (x : Single) : Prop := x.isFinite = true ∧ -90 ≤ x.value ∧ x.value ≤ 90

/-- The flag is true and no coordinate is null. -/
def FollowsCoordinates (h : Header) : Prop :=
  h.integer? distancesFollowSlot = some 1 ∧ ∀ slot ∈ coordinateSlots, h.real? slot ≠ none

/-- What stands against bringing the distances up to date.  The latitude of the station is looked
at after that of the event. -/
inductive DistanceFault (h : Header) : Error → Prop
  | flag {n : Int32} (hflag : h.integer? distancesFollowSlot = some n) (hfalse : n ≠ 0)
      (htrue : n ≠ 1) : DistanceFault h (.notLogical "lcalda" n)
  | event {evla : Single} (hfollows : h.FollowsCoordinates)
      (hevent : h.real? eventLatitudeSlot = some evla) (hbeyond : ¬BetweenPoles evla) :
      DistanceFault h (.invalidLatitude evla.widen)
  | station {evla stla : Single} (hfollows : h.FollowsCoordinates)
      (hevent : h.real? eventLatitudeSlot = some evla) (hbetween : BetweenPoles evla)
      (hstation : h.real? stationLatitudeSlot = some stla) (hbeyond : ¬BetweenPoles stla) :
      DistanceFault h (.invalidLatitude stla.widen)

/-- A 32-bit word is a latitude if it is a number from -90 to 90; what is no number, or infinite,
is none. -/
lemma isLatitude_widen_iff {x : Single} : isLatitude x.widen = true ↔ BetweenPoles x := by
  have hpole {n : ℤ} (hn : n.natAbs ≤ 9007199254740992) :
      (whole n).isFinite = true ∧ (whole n).value = n := by
    obtain ⟨hfinite, hvalue, -⟩ := Floating.ofRat_of_holds Format.regular_double
      (Format.holds_double_intCast hn) false
    exact ⟨hfinite, hvalue⟩
  obtain ⟨hsouth, hsouth'⟩ := hpole (n := -90) (by decide)
  obtain ⟨hnorth, hnorth'⟩ := hpole (n := 90) (by decide)
  rw [isLatitude, Bool.and_eq_true]
  constructor
  · rintro ⟨hlow, hhigh⟩
    have hfinite := Floating.isFinite_of_le_of_le hsouth hnorth hlow hhigh
    have hx := Floating.isFinite_of_isFinite_widen hfinite
    rw [Floating.le_iff_of_isFinite hsouth hfinite, hsouth',
      (Floating.widen_of_isFinite hx).2.1] at hlow
    rw [Floating.le_iff_of_isFinite hfinite hnorth, hnorth',
      (Floating.widen_of_isFinite hx).2.1] at hhigh
    exact ⟨hx, by exact_mod_cast hlow, by exact_mod_cast hhigh⟩
  · rintro ⟨hx, hlow, hhigh⟩
    obtain ⟨hfinite, hvalue, -⟩ := Floating.widen_of_isFinite hx
    rw [Floating.le_iff_of_isFinite hsouth hfinite, Floating.le_iff_of_isFinite hfinite hnorth,
      hsouth', hnorth', hvalue]
    exact ⟨by exact_mod_cast hlow, by exact_mod_cast hhigh⟩

lemma isLatitude_widen_eq_false_iff {x : Single} :
    isLatitude x.widen = false ↔ ¬BetweenPoles x := by
  rw [← isLatitude_widen_iff, Bool.not_eq_true]

/-- The second latitude is refused where the first is not. -/
lemma line_of_not_isLatitude {x y x' y' : Double} (hx : isLatitude x = true)
    (hx' : isLatitude x' = false) : line ⟨x, y⟩ ⟨x', y'⟩ = .error (.invalidLatitude x') := by
  simp only [line, hx, hx', Bool.not_true, Bool.not_false, Bool.false_eq_true, if_false, if_true]

/-- The latitude of the first point is looked at before that of the second. -/
lemma line_eq_error_iff {x x' : Single} {y y' : Double} {e : Error} :
    line ⟨x.widen, y⟩ ⟨x'.widen, y'⟩ = .error e ↔
      (¬BetweenPoles x ∧ e = .invalidLatitude x.widen) ∨
        (BetweenPoles x ∧ ¬BetweenPoles x' ∧ e = .invalidLatitude x'.widen) := by
  by_cases hx : BetweenPoles x
  · have hlatitude := isLatitude_widen_iff.2 hx
    by_cases hx' : BetweenPoles x'
    · have hlatitude' := isLatitude_widen_iff.2 hx'
      simp only [line, hlatitude, hlatitude', Bool.not_true, Bool.false_eq_true, if_false]
      split_ifs <;> simp [hx, hx']
    · rw [line_of_not_isLatitude hlatitude (isLatitude_widen_eq_false_iff.2 hx')]
      simp [hx, hx', eq_comm]
  · have hbeyond := isLatitude_widen_eq_false_iff.2 hx
    simp only [line, hbeyond, Bool.not_false, if_true, hx]
    simp [eq_comm]

lemma line_self {x y : Double} (hx : isLatitude x = true) (hy : y.isNaN = false) :
    line ⟨x, y⟩ ⟨x, y⟩ = .ok .none := by
  have hlow := (Bool.and_eq_true_iff.1 hx).1
  have hsame : x.same x = true := Floating.same_iff.2
    ⟨(Floating.le_iff.1 hlow).2.1, (Floating.le_iff.1 hlow).2.1, rfl⟩
  have hsame' : y.same y = true := Floating.same_iff.2 ⟨hy, hy, rfl⟩
  simp only [line, hx, hsame, hsame', Bool.not_true, Bool.false_eq_true, if_false, Bool.and_self,
    if_true]

/-- The points are those of the four coordinates, none of which is null. -/
lemma points_eq_ok_iff {event station : Point} : h.points = .ok (event, station) ↔
    ∃ stla stlo evla evlo, h.real? stationLatitudeSlot = some stla ∧
      h.real? stationLongitudeSlot = some stlo ∧ h.real? eventLatitudeSlot = some evla ∧
      h.real? eventLongitudeSlot = some evlo ∧
      event = ⟨evla.widen, evlo.widen⟩ ∧ station = ⟨stla.widen, stlo.widen⟩ := by
  simp only [points, coordinate]
  cases h.real? stationLatitudeSlot <;> cases h.real? stationLongitudeSlot <;>
    cases h.real? eventLatitudeSlot <;> cases h.real? eventLongitudeSlot <;>
    simp [eq_comm]

/-- The flag is refused where it is stored as neither truth value. -/
lemma distancesFollow_eq_error_iff {e : Error} : h.distancesFollow = .error e ↔
    ∃ n, h.integer? distancesFollowSlot = some n ∧ n ≠ 0 ∧ n ≠ 1 ∧ e = .notLogical "lcalda" n := by
  rw [distancesFollow, logical?]
  rcases h.integer? distancesFollowSlot with _ | n
  · simp
  · dsimp only
    split_ifs with hzero hone
    · simp [hzero]
    · simp [hone]
    · simp [hzero, hone, eq_comm]

lemma distancesFollow_eq_true_iff :
    h.distancesFollow = .ok (some true) ↔ h.integer? distancesFollowSlot = some 1 := by
  rw [distancesFollow, logical?]
  rcases h.integer? distancesFollowSlot with _ | n
  · simp
  · dsimp only
    split_ifs with hzero hone
    · simp [hzero]
    · simp [hone]
    · simp [hone]

/-- Where the flag and the coordinates ask for a line there are points for it. -/
lemma points_of_follows (hfollows : h.FollowsCoordinates) :
    ∃ stla stlo evla evlo : Single, h.real? stationLatitudeSlot = some stla ∧
      h.real? eventLatitudeSlot = some evla ∧
      h.points = .ok (⟨evla.widen, evlo.widen⟩, ⟨stla.widen, stlo.widen⟩) := by
  have hset : ∀ slot ∈ coordinateSlots, ∃ x, h.real? slot = some x :=
    fun slot hslot => Option.ne_none_iff_exists'.1 (hfollows.2 slot hslot)
  obtain ⟨stla, hstla⟩ := hset stationLatitudeSlot (by decide)
  obtain ⟨stlo, hstlo⟩ := hset stationLongitudeSlot (by decide)
  obtain ⟨evla, hevla⟩ := hset eventLatitudeSlot (by decide)
  obtain ⟨evlo, hevlo⟩ := hset eventLongitudeSlot (by decide)
  exact ⟨stla, stlo, evla, evlo, hstla, hevla,
    points_eq_ok_iff.2 ⟨stla, stlo, evla, evlo, hstla, hstlo, hevla, hevlo, rfl, rfl⟩⟩

/-- A line is computed only where the flag and the coordinates ask for it. -/
lemma follows_of_points {event station : Point} (hflag : h.distancesFollow = .ok (some true))
    (hp : h.points = .ok (event, station)) : h.FollowsCoordinates := by
  obtain ⟨stla, stlo, evla, evlo, hstla, hstlo, hevla, hevlo, -, -⟩ := points_eq_ok_iff.1 hp
  refine ⟨distancesFollow_eq_true_iff.1 hflag, ?_⟩
  simp [coordinateSlots, hstla, hstlo, hevla, hevlo]

lemma distanceFault_of_update {e : Error} (he : h.updateDistances false = .error e) :
    h.DistanceFault e := by
  simp only [updateDistances, Bool.false_eq_true, if_false, bind_eq_error_iff] at he
  rcases he with hflag | ⟨flag, hflag, he⟩
  · obtain ⟨n, hn, hzero, hone, rfl⟩ := distancesFollow_eq_error_iff.1 hflag
    exact .flag hn hzero hone
  · split_ifs at he with htrue
    subst htrue
    rw [computeDistances] at he
    split at he
    · rename_i event station hpoints
      have hfollows := follows_of_points hflag hpoints
      obtain ⟨stla, stlo, evla, evlo, hstla, -, hevla, -, rfl, rfl⟩ := points_eq_ok_iff.1 hpoints
      have hline := (bind_eq_error_iff.1 he).resolve_right (by simp)
      rcases line_eq_error_iff.1 hline with ⟨hbeyond, rfl⟩ | ⟨hbetween, hbeyond, rfl⟩
      · exact .event hfollows hevla hbeyond
      · exact .station hfollows hevla hbetween hstla hbeyond
    · exact absurd he (by simp)

lemma update_of_distanceFault {e : Error} (hfault : h.DistanceFault e) :
    h.updateDistances false = .error e := by
  have hline (hfollows : h.FollowsCoordinates) {evla stla : Single} {y y' : Double}
      (hpoints : h.points = .ok (⟨evla.widen, y⟩, ⟨stla.widen, y'⟩))
      (hfails : line ⟨evla.widen, y⟩ ⟨stla.widen, y'⟩ = .error e) :
      h.updateDistances false = .error e := by
    rw [updateDistances_of_points (distancesFollow_eq_true_iff.2 hfollows.1) hpoints, hfails,
      error_bind]
  cases hfault with
  | flag hflag hzero hone =>
      have hinvalid := distancesFollow_eq_error_iff.2 ⟨_, hflag, hzero, hone, rfl⟩
      simp only [updateDistances, Bool.false_eq_true, if_false, hinvalid, error_bind]
  | event hfollows hevent hbeyond =>
      obtain ⟨stla, stlo, evla, evlo, -, hevla, hpoints⟩ := points_of_follows hfollows
      obtain rfl := Option.some.inj (hevent.symm.trans hevla)
      exact hline hfollows hpoints (line_eq_error_iff.2 (Or.inl ⟨hbeyond, rfl⟩))
  | station hfollows hevent hbetween hstation hbeyond =>
      obtain ⟨stla, stlo, evla, evlo, hstla, hevla, hpoints⟩ := points_of_follows hfollows
      obtain rfl := Option.some.inj (hevent.symm.trans hevla)
      obtain rfl := Option.some.inj (hstation.symm.trans hstla)
      exact hline hfollows hpoints (line_eq_error_iff.2 (Or.inr ⟨hbetween, hbeyond, rfl⟩))

/-- An update fails on a flag that is no truth value and on a latitude beyond a pole, and on
nothing else. -/
lemma updateDistances_eq_error_iff {e : Error} :
    h.updateDistances false = .error e ↔ h.DistanceFault e :=
  ⟨distanceFault_of_update, update_of_distanceFault⟩

/-- The faults of an update without the coordinates that they come from. -/
lemma updateDistances_eq_error {e : Error} (he : h.updateDistances false = .error e) :
    (∃ n, h.integer? distancesFollowSlot = some n ∧ n ≠ 0 ∧ n ≠ 1 ∧ e = .notLogical "lcalda" n) ∨
      ∃ x, isLatitude x = false ∧ e = .invalidLatitude x := by
  cases updateDistances_eq_error_iff.1 he with
  | flag hflag hzero hone => exact Or.inl ⟨_, hflag, hzero, hone, rfl⟩
  | event _ _ hbeyond => exact Or.inr ⟨_, isLatitude_widen_eq_false_iff.2 hbeyond, rfl⟩
  | station _ _ _ _ hbeyond => exact Or.inr ⟨_, isLatitude_widen_eq_false_iff.2 hbeyond, rfl⟩

end Seismogram.Header
