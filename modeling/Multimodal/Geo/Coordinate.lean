/-! # Fixed-point coordinates

Points are stored as degrees times ten million, so that equality and hashing are exact.  Distances
take the earth as flat around the mean latitude, which is good to well under a percent over a few
kilometres.

* `Coordinate`: a point; `ofDegrees`, `latitude` and `longitude` change between the two scales.
* `Coordinate.distance`: metres between two points.
* `millimetres`, `bounded`: how a computed length or speed becomes a stored whole number.
-/

namespace Multimodal

/-- Fixed-point units per degree. -/
def unitsPerDegree : Float := 1e7

/-- Metres per degree of latitude. -/
def metresPerDegree : Float := 111111.111

/-- One degree of angle. -/
def radiansPerDegree : Float := 3.141592653589793 / 180.0

/-- Degrees of a fixed-point value. -/
def degreesOfUnits (units : Int32) : Float := Float.ofInt units.toInt / unitsPerDegree

/-- The nearest fixed-point value, a half going away from zero; values out of range stop at the ends
of the range. -/
def unitsOfDegrees (degrees : Float) : Int32 := (degrees * unitsPerDegree).round.toInt32

/-- A length in whole millimetres, rounded to the nearest. -/
def millimetres (metres : Float) : UInt32 := (metres * 1000.0).round.toUInt32

/-- A number moved into an interval; "not a number" stays what it is. -/
def bounded (low high x : Float) : Float :=
  let raised := if x < low then low else x
  if high < raised then high else raised

/-- The length of the hypotenuse. -/
def hypotenuse (x y : Float) : Float := (x * x + y * y).sqrt

/-- A point in fixed-point degrees. -/
structure Coordinate where
  latitudeUnits : Int32
  longitudeUnits : Int32
  deriving DecidableEq, Repr, Inhabited

namespace Coordinate

/-- The fixed-point coordinate nearest to a point in degrees. -/
def ofDegrees (latitude longitude : Float) : Coordinate :=
  ⟨unitsOfDegrees latitude, unitsOfDegrees longitude⟩

/-- Degrees north. -/
def latitude (c : Coordinate) : Float := degreesOfUnits c.latitudeUnits

/-- Degrees east. -/
def longitude (c : Coordinate) : Float := degreesOfUnits c.longitudeUnits

/-- Metres between two points. -/
def distance (a b : Coordinate) : Float :=
  let meanLatitude := (a.latitude + b.latitude) / 2.0 * radiansPerDegree
  let north := (a.latitude - b.latitude) * metresPerDegree
  let east := (a.longitude - b.longitude) * metresPerDegree * meanLatitude.cos
  hypotenuse east north

end Coordinate

end Multimodal
