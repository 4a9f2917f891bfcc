/-
# Distances and directions on the Earth

The distance of two points and the directions from one to the other are those of the
shortest line on the WGS84 ellipsoid.  The difference of longitude on the auxiliary sphere
is found by iteration; where that does not come to rest, as for nearly antipodal points,
the answer is that of a sphere.

Which inputs are answered, and with what form of answer, is decided exactly on words.  The
trigonometry in between is that of the machine.
-/
import Seismogram.Error

namespace Seismogram.Geodesy

open Seismogram.Number

/-! ## Words and machine numbers -/

/-- A word as a machine number. -/
def toMachine (x : Double) : Float := Float.ofBits (.ofBitVec x.bits)

/-- A machine number as a word. -/
def ofMachine (x : Float) : Double := ⟨x.toBits.toBitVec⟩

/-- The word nearest to pi. -/
def pi : Double := ⟨0x400921FB54442D18⟩

/-- The radius of the sphere of the Earth, in kilometres. -/
def earthRadius : Nat := 6371

/-- A whole number as a word. -/
def whole (n : Int) : Double := .ofInt n

/-- The kilometres of a degree of arc on the sphere. -/
def kilometresPerDegree : Double :=
  (((whole 2).mul pi).mul (whole earthRadius)).div (whole 360)

/-- The degrees of arc of a distance in kilometres. -/
def degreesOfArc (kilometres : Double) : Double := kilometres.div kilometresPerDegree

/-- The angle in the range from 0 up to 360 that points in the same direction: the remainder
of a division by 360 with the sign of the angle, plus 360 if it is negative. -/
def wrapDegrees (angle : Double) : Double :=
  if angle.isNaN then angle.quiet
  else if angle.isInfinite then .invalid
  else
    let r := angle.value
    let rest : Double := .ofRat (r - 360 * (r.num.tdiv (360 * r.den) : Int)) angle.negative
    let turned := if rest.lt (.zero false) then rest.add (whole 360) else rest
    if (whole 360).le turned then .zero false else turned

/-! ## Shortest lines -/

/-- A point on the Earth, in degrees. -/
structure Point where
  /-- Degrees north. -/
  latitude : Double
  /-- Degrees east. -/
  longitude : Double
deriving DecidableEq

/-- The line from one point to another. -/
structure Line where
  /-- The length in metres. -/
  metres : Double
  /-- The direction at the first point towards the second, in degrees from north. -/
  azimuth : Double
  /-- The direction at the second point towards the first. -/
  backAzimuth : Double
deriving DecidableEq

/-- The line from a point to itself. -/
def Line.none : Line := ⟨.zero false, .zero false, .zero false⟩

/-- The latitude lies between the poles. -/
def isLatitude (x : Double) : Bool := (whole (-90)).le x && x.le (whole 90)

/-- Degrees in radians. -/
def radians (degrees : Float) : Float := degrees * (toMachine pi / 180.0)

/-- Radians in degrees. -/
def degrees (radians : Float) : Float := radians * (180.0 / toMachine pi)

/-- An angle in degrees as a direction. -/
def direction (angle : Float) : Double := wrapDegrees (ofMachine angle)

/-! ### On the ellipsoid -/

/-- The equatorial radius, in metres. -/
def equatorialRadius : Float := 6378137.0

/-- The flattening. -/
def flattening : Float := 1.0 / 298.257223563

/-- Two points by the sines and cosines of their reduced latitudes, and the difference of
their longitudes in radians. -/
structure Reduced where
  /-- The sine at the first point. -/
  sin₁ : Float
  /-- The cosine at the first point. -/
  cos₁ : Float
  /-- The sine at the second point. -/
  sin₂ : Float
  /-- The cosine at the second point. -/
  cos₂ : Float
  /-- The difference of longitude. -/
  longitude : Float

/-- Two points in reduced form. -/
def reduced (a b : Point) : Reduced :=
  let u (p : Point) : Float :=
    ((1.0 - flattening) * (radians (toMachine p.latitude)).tan).atan
  { sin₁ := (u a).sin
    cos₁ := (u a).cos
    sin₂ := (u b).sin
    cos₂ := (u b).cos
    longitude := radians (toMachine b.longitude - toMachine a.longitude) }

/-- What one pass of the iteration finds for a longitude on the auxiliary sphere. -/
structure Pass where
  /-- The sine of the longitude. -/
  sinLambda : Float
  /-- The cosine of the longitude. -/
  cosLambda : Float
  /-- The sine of the arc between the points. -/
  sinSigma : Float
  /-- The cosine of the arc. -/
  cosSigma : Float
  /-- The arc. -/
  sigma : Float
  /-- The squared cosine of the line's direction at the equator. -/
  cosSqAlpha : Float
  /-- The cosine of twice the arc from the equator to the middle of the line. -/
  cosTwiceMiddle : Float
  /-- The longitude of the next pass. -/
  next : Float

/-- A square. -/
def square (x : Float) : Float := x * x

/-- One pass of the iteration.  On a line along the equator the middle is not defined and
counts as zero. -/
def pass (p : Reduced) (lambda : Float) : Pass :=
  let f := flattening
  let sinLambda := lambda.sin
  let cosLambda := lambda.cos
  let sinSigma := (square (p.cos₂ * sinLambda)
    + square (p.cos₁ * p.sin₂ - p.sin₁ * p.cos₂ * cosLambda)).sqrt
  let cosSigma := p.sin₁ * p.sin₂ + p.cos₁ * p.cos₂ * cosLambda
  let sigma := Float.atan2 sinSigma cosSigma
  let sinAlpha := p.cos₁ * p.cos₂ * sinLambda / sinSigma
  let cosSqAlpha := 1.0 - sinAlpha * sinAlpha
  let cosTwiceMiddle :=
    if cosSqAlpha == 0.0 then 0.0 else cosSigma - 2.0 * p.sin₁ * p.sin₂ / cosSqAlpha
  let c := f / 16.0 * cosSqAlpha * (4.0 + f * (4.0 - 3.0 * cosSqAlpha))
  let next := p.longitude
    + (1.0 - c) * f * sinAlpha
      * (sigma + c * sinSigma
        * (cosTwiceMiddle + c * cosSigma * (-1.0 + 2.0 * square cosTwiceMiddle)))
  { sinLambda, cosLambda, sinSigma, cosSigma, sigma, cosSqAlpha, cosTwiceMiddle, next }

/-- The line that the last pass describes. -/
def lineOf (p : Reduced) (q : Pass) : Line :=
  let a := equatorialRadius
  let b := a * (1.0 - flattening)
  let uSq := q.cosSqAlpha * (a * a - b * b) / (b * b)
  let bigA := 1.0 + uSq / 16384.0 * (4096.0 + uSq * (-768.0 + uSq * (320.0 - 175.0 * uSq)))
  let bigB := uSq / 1024.0 * (256.0 + uSq * (-128.0 + uSq * (74.0 - 47.0 * uSq)))
  let deltaSigma := bigB * q.sinSigma
    * (q.cosTwiceMiddle + bigB / 4.0
      * (q.cosSigma * (-1.0 + 2.0 * square q.cosTwiceMiddle)
        - bigB / 6.0 * q.cosTwiceMiddle * (-3.0 + 4.0 * square q.sinSigma)
          * (-3.0 + 4.0 * square q.cosTwiceMiddle)))
  let forth := Float.atan2 (p.cos₂ * q.sinLambda)
    (p.cos₁ * p.sin₂ - p.sin₁ * p.cos₂ * q.cosLambda)
  let back := Float.atan2 (p.cos₁ * q.sinLambda)
    (-p.sin₁ * p.cos₂ + p.cos₁ * p.sin₂ * q.cosLambda)
  { metres := ofMachine (b * bigA * (q.sigma - deltaSigma))
    azimuth := direction (degrees forth)
    backAzimuth := direction (degrees back + 180.0) }

/-- The passes that are made at most. -/
def mostPasses : Nat := 200

/-- Longitudes that differ by less than this are the same. -/
def tolerance : Float := 1e-12

/-- The line that at most `passes` passes lead to, if they come to rest. -/
def iterate (p : Reduced) : (passes : Nat) → (lambda : Float) → Option Line
  | 0, _ => none
  | passes + 1, lambda =>
    let q := pass p lambda
    if q.sinSigma == 0.0 then some .none
    else if (q.next - lambda).abs < tolerance then some (lineOf p q)
    else iterate p passes q.next

/-- The line on the ellipsoid. -/
def onEllipsoid (a b : Point) : Option Line :=
  let p := reduced a b
  iterate p mostPasses p.longitude

/-! ### On the sphere -/

/-- An arc in radians as metres on the sphere. -/
def arcMetres (arc : Float) : Double :=
  ofMachine (arc * Float.ofNat earthRadius * 1000.0)

/-- The line on the sphere. -/
def onSphere (a b : Point) : Line :=
  let φ₁ := radians (toMachine a.latitude)
  let φ₂ := radians (toMachine b.latitude)
  let Δ := radians (toMachine b.longitude - toMachine a.longitude)
  let haversine := square ((φ₂ - φ₁) / 2.0).sin + φ₁.cos * φ₂.cos * square (Δ / 2.0).sin
  let root := haversine.sqrt
  let forth := Float.atan2 (Δ.sin * φ₂.cos) (φ₁.cos * φ₂.sin - φ₁.sin * φ₂.cos * Δ.cos)
  let back := Float.atan2 ((-Δ).sin * φ₁.cos) (φ₂.cos * φ₁.sin - φ₂.sin * φ₁.cos * Δ.cos)
  { metres := arcMetres (2.0 * (if root < 1.0 then root else 1.0).asin)
    azimuth := direction (degrees forth)
    backAzimuth := direction (degrees back) }

/-- The line between points whose difference of longitude is no number: half way around the
sphere, in no direction. -/
def undirected (difference : Double) : Line :=
  let angle : Double := if difference.isNaN then difference else .invalid
  { metres := arcMetres (2.0 * Float.asin 1.0), azimuth := angle, backAzimuth := angle }

/-! ### Any two points -/

/-- The line from one point to another.  It fails exactly on latitudes beyond the poles, the
first point's before the second's. -/
def line (a b : Point) : Except Error Line :=
  if !isLatitude a.latitude then .error (.invalidLatitude a.latitude)
  else if !isLatitude b.latitude then .error (.invalidLatitude b.latitude)
  else if a.latitude.same b.latitude && a.longitude.same b.longitude then .ok .none
  else
    let difference := b.longitude.sub a.longitude
    if difference.isFinite then .ok ((onEllipsoid a b).getD (onSphere a b))
    else .ok (undirected difference)

end Seismogram.Geodesy
