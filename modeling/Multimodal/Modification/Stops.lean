import Multimodal.Modification.Schedule

/-! # Changing where vehicles call

* `RemoveStops`: vehicles no longer call at some stops.
* `AddTrips`: a new route with its own pattern, trips and perhaps stops.

Each kind has a `resolve`, which looks at the layer and answers what it found and what speaks against
the modification, and an `apply`, which goes by what was found.
-/

namespace Multimodal

/-! ## Skipped stops -/

/-- Takes some stops out of the patterns of some routes, or of all routes when none is listed. -/
structure RemoveStops where
  routes : List String := []
  stops : List String
  foundRoutes : List RouteIndex := []
  foundStops : List StopIndex := []
  deriving DecidableEq, Repr

/-- The first arrival and the durations of a trip that calls only at some positions.  A hop takes as
long as the hops it is made of: the dwells between are saved. -/
def Trip.skip? (t : Trip) (keep : List Nat) : Option (Seconds × Durations) := do
  let d ← t.durations?
  let dwells ← keep.mapM fun k => d.dwells[k]?
  let hops ← (keep.zip keep.tail).mapM fun (a, b) => do
    let saved ← Seconds.sum? ((d.dwells.drop (a + 1)).take (b - (a + 1)))
    let direct ← Seconds.elapsed? (← t.departures[a]?) (← t.arrivals[b]?)
    return (Seconds.elapsed? saved direct).getD 0
  let first ← t.arrivals[← keep.head?]?
  return (first, ⟨dwells, hops⟩)

/-- The trip that calls only at some positions. -/
def Trip.skip (keep : List Nat) (t : Trip) : Except NetworkError Trip :=
  match t.skip? keep with
  | none => .error (.invalidTrip t.id .unusableTimes)
  | some (first, d) => Trip.build t.id first d

namespace RemoveStops

/-- Looks for the routes and the stops. -/
def resolve (m : RemoveStops) (t : TransitLayer) : RemoveStops × List Remark :=
  let (foundRoutes, unknownRoutes) := t.lookUpRoutes m.routes
  let (foundStops, unknownStops) := t.lookUpStops m.stops
  ({ m with foundRoutes, foundStops },
    (if m.stops.isEmpty then [.noStops] else []) ++ unknownRoutes ++ unknownStops)

/-- Whether the patterns of a route are changed. -/
def concerns (m : RemoveStops) (route : RouteIndex) : Bool :=
  m.foundRoutes.isEmpty || route ∈ m.foundRoutes

/-- The positions of a pattern that stay. -/
def keptPositions (m : RemoveStops) (p : Pattern) : List Nat :=
  p.stops.zipIdx.filterMap fun (s, k) => if s ∈ m.foundStops then none else some k

/-- Takes the stops out of one pattern; answers whether it had any of them. -/
def applyToPattern (m : RemoveStops) (i : PatternIndex) : Step TransitLayer Bool := do
  let p ← Step.edit (TransitLayer.openPattern i)
  let keep := m.keptPositions p
  if !m.concerns p.route || keep.length = p.stops.length then return false
  if keep.length < 2 then Step.fail (.tooFewStopsKept i keep.length p.stops.length)
  let trips ← Step.edit (liftExcept (p.trips.mapM (Trip.skip keep)))
  let stops := p.stops.filter (· ∉ m.foundStops)
  Step.edit (modify (·.replacePattern i { p with stops, trips }))
  return true
where
  /-- An answer that does not touch the layer. -/
  liftExcept {α : Type} : Except NetworkError α → Edit TransitLayer α
    | .ok a => pure a
    | .error e => throw e

/-- Takes the stops out of every pattern concerned and remarks if none had any of them. -/
def apply (m : RemoveStops) : Step TransitLayer Unit := do
  let count := (← Step.target).patterns.length
  let changed ← (List.range count).mapM m.applyToPattern
  if !changed.any id then Step.warn .noPatternCalls

end RemoveStops

/-! ## New routes -/

/-- A stop of a new route: one that exists, or a new one when it has a location. -/
structure StopSpec where
  id : String
  name : Option String := none
  latitude : Option Float := none
  longitude : Option Float := none
  deriving DecidableEq, Repr

/-- The location of a new stop. -/
def StopSpec.location? (s : StopSpec) : Option Coordinate := do
  return .ofDegrees (← s.latitude) (← s.longitude)

/-- Adds a route with one pattern.  Every departure is the arrival of a trip at the first stop; all
trips share their durations. -/
structure AddTrips where
  routeId : String
  routeName : String := ""
  mode : TransitMode
  stops : List StopSpec
  hops : List Seconds
  dwells : List Seconds
  departures : List Seconds
  deriving DecidableEq, Repr

namespace AddTrips

/-- A route on which every hop and every dwell takes the same time. -/
def uniform (routeId : String) (mode : TransitMode) (stops : List StopSpec) (hop dwell : Seconds)
    (departures : List Seconds) : AddTrips where
  routeId := routeId
  mode := mode
  stops := stops
  hops := List.replicate (stops.length - 1) hop
  dwells := List.replicate stops.length dwell
  departures := departures

/-- The trips, numbered in the order of the departures. -/
def trips (m : AddTrips) : Except NetworkError (List Trip) :=
  m.departures.zipIdx.mapM fun (first, i) =>
    Trip.rebuild s!"{m.routeId}:{i}" first ⟨m.dwells, m.hops⟩

/-- Whether there is a hop between all neighbours and a dwell at all stops. -/
def fits (m : AddTrips) : Bool :=
  2 ≤ m.stops.length && m.hops.length + 1 = m.stops.length && m.dwells.length = m.stops.length

/-- What is wrong with the stops, those in `fresh` being defined by earlier stops of the route. -/
def stopProblems (t : TransitLayer) : List String → List StopSpec → List Remark
  | _, [] => []
  | fresh, s :: rest =>
    let known := (t.stopIndex? s.id).isSome
    match s.latitude, s.longitude with
    | some _, some _ =>
      if known then .stopCollides s.id :: stopProblems t fresh rest
      else if s.id ∈ fresh then .stopDefinedTwice s.id :: stopProblems t fresh rest
      else stopProblems t (s.id :: fresh) rest
    | none, none =>
      if known || s.id ∈ fresh then stopProblems t fresh rest
      else .unknownStop s.id :: stopProblems t fresh rest
    | _, _ => .stopHalfLocated s.id :: stopProblems t fresh rest

/-- What is wrong with the numbers of stops and times. -/
def countProblems (m : AddTrips) : List Remark :=
  let n := m.stops.length
  (if n < 2 then [.tooFewStops n] else []) ++
    (if m.hops.length + 1 = n then [] else [.hopCount (n - 1) m.hops.length]) ++
    (if m.dwells.length = n then [] else [.dwellCount n m.dwells.length]) ++
    if m.departures.isEmpty then [.noDepartures] else []

/-- What is wrong with the trips, if the numbers fit. -/
def tripProblems (m : AddTrips) : List Remark :=
  if m.fits then
    match m.trips with
    | .ok _ => []
    | .error e => [.refused e]
  else []

/-- What speaks against the new route. -/
def problems (m : AddTrips) (t : TransitLayer) : List Remark :=
  (if (t.routeIndex? m.routeId).isSome then [.routeExists m.routeId] else []) ++
    m.countProblems ++ m.tripProblems ++ stopProblems t [] m.stops

/-- The stop that a description stands for, which is added if it is a new one. -/
def placeStop (s : StopSpec) : Step TransitLayer StopIndex := do
  match (← Step.target).stopIndex? s.id, s.location? with
  | some existing, none => return existing
  | none, some c => Step.edit (TransitLayer.addStop ⟨s.id, s.name.getD s.id, c⟩)
  | _, _ => Step.fail (.stopChanged s.id)

/-- Adds the stops, then the route, then the pattern with its trips. -/
def apply (m : AddTrips) : Step TransitLayer Unit := do
  let stops ← m.stops.mapM placeStop
  let route ← Step.edit (TransitLayer.addRoute ⟨m.routeId, m.routeName, m.mode⟩)
  match m.trips with
  | .error e => Step.fail (.refused e)
  | .ok trips =>
    let _ ← Step.edit (TransitLayer.addPattern ⟨route, stops, trips⟩)

end AddTrips

end Multimodal
