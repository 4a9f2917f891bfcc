/-
# Distance and directions in the header

The distance of station and event, its arc, and the two directions between them follow from
the four coordinates.  They are brought up to date when the flag `lcalda` is true and no
coordinate is null, or on demand.
-/
import Seismogram.Geodesy
import Seismogram.Header.Basic

namespace Seismogram.Header

open Seismogram.Number Seismogram.Geodesy

/-- A coordinate in degrees, or the name of the field that is null. -/
def coordinate (h : Header) (name : String) (slot : Fin 70) : Except String Double :=
  match h.real? slot with
  | some x => .ok x.widen
  | none => .error name

/-- The points of event and station, or the name of the first field that is null. -/
def points (h : Header) : Except String (Point × Point) := do
  let stationLatitude ← h.coordinate "stla" stationLatitudeSlot
  let stationLongitude ← h.coordinate "stlo" stationLongitudeSlot
  let eventLatitude ← h.coordinate "evla" eventLatitudeSlot
  let eventLongitude ← h.coordinate "evlo" eventLongitudeSlot
  .ok (⟨eventLatitude, eventLongitude⟩, ⟨stationLatitude, stationLongitude⟩)

/-- The header with the fields that describe a line from the event to the station. -/
def setLine (h : Header) (l : Line) : Header :=
  let kilometres := l.metres.div (whole 1000)
  (((h.setReal distanceSlot (some kilometres.narrow)).setReal azimuthSlot
    (some l.azimuth.narrow)).setReal backAzimuthSlot (some l.backAzimuth.narrow)).setReal arcSlot
    (some (degreesOfArc kilometres).narrow)

/-- The header with distances computed, where the coordinates are there and `demanded` says
what to do where they are not. -/
def computeDistances (h : Header) (demanded : Bool) : Except Error Header :=
  match h.points with
  | .ok (event, station) => do .ok (h.setLine (← line event station))
  | .error missing => if demanded then .error (.incompleteCoordinates missing) else .ok h

/-- The flag that says whether distances follow the coordinates. -/
def distancesFollow (h : Header) : Except Error (Option Bool) :=
  h.logical? "lcalda" distancesFollowSlot

/-- The header with its distances up to date: computed on demand, or else where the flag
asks for it and the coordinates are there. -/
def updateDistances (h : Header) (demanded : Bool) : Except Error Header :=
  if demanded then h.computeDistances true
  else do
    if (← h.distancesFollow) = some true then h.computeDistances false else .ok h

end Seismogram.Header
