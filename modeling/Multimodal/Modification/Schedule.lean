import Multimodal.Modification.Step

/-! # Revising trips

Tools that the changes of the timetable share: routes and stops by id, trips laid out anew from their
durations, and the revision of all patterns of some routes.

* `lookUp`: the records with some ids, and the ids without a record.
* `Trip.rebuild`: a trip from durations, inside the service window.
* `TransitLayer.checkRevision`, `Step.revisePatterns`: a revision tried out, and carried out.
-/

namespace Multimodal

/-- Seconds in a day. -/
def dayLength : Seconds := 86400

/-- The latest end of a trip that was laid out anew: trips may run into the next day and no
further. -/
def serviceWindow : Seconds := 172800

/-- A length of time scaled and rounded, a half going up, within the range of times. -/
def Seconds.scale (t : Seconds) (factor : Float) : Seconds :=
  -- the ends of the range are whole, so that numbers beyond them may be moved there before rounding
  let scaled := bounded 0.0 4294967295.0 (t.toFloat * factor)
  let whole := scaled.toUInt32
  if 0.5 ≤ scaled - whole.toFloat then whole + 1 else whole

/-- The positions that some ids stand for, and a remark for every id without one. -/
def lookUp (find? : String → Option Nat) (unknown : String → Remark) (ids : List String) :
    List Nat × List Remark :=
  (ids.filterMap find?, (ids.filter fun id => (find? id).isNone).map unknown)

/-- The routes with some ids. -/
def TransitLayer.lookUpRoutes (t : TransitLayer) : List String → List RouteIndex × List Remark :=
  lookUp t.routeIndex? .unknownRoute

/-- The stops with some ids. -/
def TransitLayer.lookUpStops (t : TransitLayer) : List String → List StopIndex × List Remark :=
  lookUp t.stopIndex? .unknownStop

/-- The trip that durations describe, if it ends inside the service window. -/
def Trip.rebuild (id : String) (first : Seconds) (d : Durations) : Except NetworkError Trip := do
  let trip ← Trip.build id first d
  if serviceWindow < trip.finish then
    throw (.invalidTrip id (.pastWindow trip.finish serviceWindow))
  return trip

/-- A pattern with every trip revised; the first trip that cannot be stops it. -/
def Pattern.revise (f : List StopIndex → Trip → Except NetworkError Trip) (p : Pattern) :
    Except NetworkError Pattern := do
  let trips ← p.trips.mapM (f p.stops)
  return { p with trips }

namespace TransitLayer

/-- The patterns of some routes, found without the membership lists. -/
def patternsOf (t : TransitLayer) (routes : List RouteIndex) : List PatternIndex :=
  t.patterns.zipIdx.filterMap fun (p, i) => if p.route ∈ routes then some i else none

/-- What the revision of all patterns of some routes would meet first, if anything. -/
def checkRevision (t : TransitLayer) (routes : List RouteIndex)
    (f : List StopIndex → Trip → Except NetworkError Trip) : List Remark :=
  match (t.patterns.filter (·.route ∈ routes)).mapM (Pattern.revise f) with
  | .ok _ => []
  | .error e => [.refused e]

end TransitLayer

namespace Step

/-- Revises one pattern; a trip that cannot be revised is recorded and leaves the pattern as it
was. -/
def revisePattern (f : List StopIndex → Trip → Except NetworkError Trip) (i : PatternIndex) :
    Step TransitLayer Unit := do
  let pattern ← edit (TransitLayer.openPattern i)
  match pattern.revise f with
  | .error e => fail (.refused e)
  | .ok revised => edit (modify (·.replacePattern i revised))

/-- Revises all patterns of some routes. -/
def revisePatterns (routes : List RouteIndex)
    (f : List StopIndex → Trip → Except NetworkError Trip) : Step TransitLayer Unit := do
  ((← target).patternsOf routes).forM (revisePattern f)

end Step

end Multimodal
