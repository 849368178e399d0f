import Multimodal.Geo.Coordinate

/-! # Envelopes

An envelope is a box of latitudes and longitudes in degrees, sides included.

* `Envelope.covering`: the smallest box around some points.
* `Envelope.buffered`: the box widened by a distance on every side.
* `Envelope.contains`, `Envelope.intersects`, `Envelope.isValid`: the tests.
-/

namespace Multimodal

/-- The smaller of two numbers, or the only one that is a number. -/
def lesser (a b : Float) : Float := if a.isNaN then b else if b < a then b else a

/-- The greater of two numbers, or the only one that is a number. -/
def greater (a b : Float) : Float := if a.isNaN then b else if a < b then b else a

/-- A box with its southern, western, northern and eastern side. -/
structure Envelope where
  minLatitude : Float
  minLongitude : Float
  maxLatitude : Float
  maxLongitude : Float
  deriving DecidableEq, Repr

namespace Envelope

/-- The box that holds one point only. -/
def ofPoint (p : Coordinate) : Envelope :=
  ⟨p.latitude, p.longitude, p.latitude, p.longitude⟩

/-- The box grown to hold another box. -/
def merge (e other : Envelope) : Envelope :=
  ⟨lesser e.minLatitude other.minLatitude, lesser e.minLongitude other.minLongitude,
    greater e.maxLatitude other.maxLatitude, greater e.maxLongitude other.maxLongitude⟩

/-- The box grown to hold a point. -/
def insert (e : Envelope) (p : Coordinate) : Envelope := e.merge (ofPoint p)

/-- The smallest box around the points, if there is a point. -/
def covering : List Coordinate → Option Envelope
  | [] => none
  | p :: rest => some (rest.foldl insert (ofPoint p))

/-- Whether the sides are finite and in order. -/
def isValid (e : Envelope) : Bool :=
  e.minLatitude.isFinite && e.minLongitude.isFinite && e.maxLatitude.isFinite &&
    e.maxLongitude.isFinite && e.minLatitude ≤ e.maxLatitude && e.minLongitude ≤ e.maxLongitude

/-- The box widened by a distance in metres.  A degree of longitude is shortest at the side nearest to
a pole, so that side's latitude decides the width; from 89 degrees on it is taken as 89. -/
def buffered (e : Envelope) (metres : Float) : Envelope :=
  let northward := metres / metresPerDegree
  let extreme := greater e.minLatitude.abs e.maxLatitude.abs + northward
  let shrink := (lesser extreme 89.0 * radiansPerDegree).cos
  let eastward := metres / (metresPerDegree * shrink)
  ⟨e.minLatitude - northward, e.minLongitude - eastward,
    e.maxLatitude + northward, e.maxLongitude + eastward⟩

/-- Whether the point lies in the box or on a side of it. -/
def contains (e : Envelope) (p : Coordinate) : Bool :=
  e.minLatitude ≤ p.latitude && p.latitude ≤ e.maxLatitude &&
    e.minLongitude ≤ p.longitude && p.longitude ≤ e.maxLongitude

/-- Whether two boxes share a point. -/
def intersects (e other : Envelope) : Bool :=
  e.minLatitude ≤ other.maxLatitude && other.minLatitude ≤ e.maxLatitude &&
    e.minLongitude ≤ other.maxLongitude && other.minLongitude ≤ e.maxLongitude

end Envelope

end Multimodal
