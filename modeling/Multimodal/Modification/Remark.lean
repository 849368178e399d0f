import Multimodal.Decimal.Layout
import Multimodal.Network.Basic

/-! # Remarks and failures

A modification remembers what its author said about it and every remark that was recorded while it
was resolved and applied.  A step that fails answers the remark that made it fail.

* `Remark`: what can be recorded, and its wording.
* `StepFailure`: why a step failed.
* `Diagnostics`: the comment and the remarks; `fail` and `check` record what they answer.
-/

namespace Multimodal

/-- Which end of a new street. -/
inductive StreetEnd
  | first
  | last
  deriving DecidableEq, Repr

/-- The name of an end in messages. -/
def StreetEnd.name : StreetEnd → String
  | first => "first"
  | last => "last"

/-- What is recorded about a modification. -/
inductive Remark
  | note (text : String)
  | refused (e : NetworkError)
  | invalidEnvelope
  | noStreetsInside
  | badSpeedFactor (factor : Float)
  | nothingToChange
  | edgeDisappeared (e : EdgeId)
  | alreadyRemoved (edges : Nat)
  | badSpeed (kph : Float)
  | noCoordinates
  | tooFewCoordinates
  | endOffStreets (which : StreetEnd) (latitude longitude radius : Float)
  | notResolved
  | nothingToRemove
  | unknownRoute (id : String)
  | unknownTrip (id : String)
  | unknownStop (id : String)
  | noTripsRemoved
  | noStops
  | tooFewStopsKept (pattern : PatternIndex) (kept total : Nat)
  | noPatternCalls
  | badScale (scale : Float)
  | noRoutes
  | noTripsSelected
  | dwellNotDecided
  | dwellTooLong (dwell : Seconds)
  | routeExists (id : String)
  | tooFewStops (stops : Nat)
  | hopCount (expected given : Nat)
  | dwellCount (expected given : Nat)
  | noDepartures
  | stopCollides (id : String)
  | stopDefinedTwice (id : String)
  | stopHalfLocated (id : String)
  | stopChanged (id : String)
  deriving DecidableEq, Repr

/-- A number as messages show it. -/
def shown (x : Float) : String := Decimal.Layout.message.render x

/-- The wording of a remark. -/
def Remark.message : Remark → String
  | note text => text
  | refused e => e.message
  | invalidEnvelope => "envelope is empty or inverted"
  | noStreetsInside => "no street edges inside the envelope"
  | badSpeedFactor factor => s!"speed factor must be positive, got {shown factor}"
  | nothingToChange => "neither a speed factor nor permissions given"
  | edgeDisappeared e => s!"edge {e.label} disappeared before apply"
  | alreadyRemoved edges => s!"{edges} edge(s) were already removed"
  | badSpeed kph => s!"speed must be positive, got {shown kph} km/h"
  | noCoordinates => "street has no coordinates"
  | tooFewCoordinates => "street needs at least two coordinates"
  | endOffStreets which latitude longitude radius =>
    s!"{which.name} point ({shown latitude}, {shown longitude}) is not within {shown radius} m " ++
      "of the street network"
  | notResolved => "applied before a successful resolve"
  | nothingToRemove => "no routes or trips given"
  | unknownRoute id => s!"route {id} does not exist"
  | unknownTrip id => s!"trip {id} does not exist"
  | unknownStop id => s!"stop {id} does not exist"
  | noTripsRemoved => "no trips were removed"
  | noStops => "no stops given"
  | tooFewStopsKept pattern kept total =>
    s!"pattern {pattern.label} would keep {kept} of {total} stops"
  | noPatternCalls => "no pattern calls at the removed stops"
  | badScale scale => s!"scale must be positive, got {shown scale}"
  | noRoutes => "no routes given"
  | noTripsSelected => "selected routes have no trips"
  | dwellNotDecided => "exactly one of dwell time and scale must be given"
  | dwellTooLong dwell => s!"dwell time {dwell} s is longer than a day"
  | routeExists id => s!"route {id} already exists"
  | tooFewStops stops => s!"a route needs at least two stops, got {stops}"
  | hopCount expected given => s!"expected {expected} hop times, got {given}"
  | dwellCount expected given => s!"expected {expected} dwell times, got {given}"
  | noDepartures => "no departures given"
  | stopCollides id => s!"new stop {id} collides with an existing stop"
  | stopDefinedTwice id => s!"new stop {id} is defined twice"
  | stopHalfLocated id => s!"stop {id} has only one of latitude and longitude"
  | stopChanged id => s!"stop {id} changed since resolve"

/-- Whether a number can scale something: finite and positive. -/
def isFactor (x : Float) : Bool := x.isFinite && 0 < x

/-- Why a step failed: the first remark that made it fail, and how many more there were. -/
structure StepFailure where
  cause : Remark
  further : Nat := 0
  deriving DecidableEq, Repr

/-- The wording of a failure. -/
def StepFailure.reason (f : StepFailure) : String :=
  if f.further = 0 then f.cause.message else s!"{f.cause.message} (and {f.further} more)"

/-- What the author said about a modification and what was recorded since. -/
structure Diagnostics where
  comment : Option String := none
  warnings : List Remark := []
  deriving DecidableEq, Repr

namespace Diagnostics

/-- Records a remark. -/
def warn (d : Diagnostics) (r : Remark) : Diagnostics :=
  { d with warnings := d.warnings ++ [r] }

/-- Records a remark and answers it as a failure. -/
def fail (d : Diagnostics) (r : Remark) : Diagnostics × StepFailure := (d.warn r, ⟨r, 0⟩)

/-- Records some problems and fails if there is one. -/
def check (d : Diagnostics) (problems : List Remark) : Diagnostics × Except StepFailure Unit :=
  let d := { d with warnings := d.warnings ++ problems }
  match problems with
  | [] => (d, .ok ())
  | first :: rest => (d, .error ⟨first, rest.length⟩)

end Diagnostics

end Multimodal
