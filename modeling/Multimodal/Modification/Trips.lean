import Multimodal.Modification.Schedule

/-! # Changing the trips that run

* `RemoveTrips`: trips are taken out, and patterns left without trips with them.
* `AdjustSpeed`: vehicles get faster or slower between stops.
* `AdjustDwellTime`: vehicles wait shorter or longer at stops.

Each kind has a `resolve`, which looks at the layer and answers what it found and what speaks against
the modification, and an `apply`, which goes by what was found.
-/

namespace Multimodal

/-! ## Taking trips out -/

/-- Takes out every trip of some routes, and some single trips. -/
structure RemoveTrips where
  routes : List String := []
  trips : List String := []
  foundRoutes : List RouteIndex := []
  deriving DecidableEq, Repr

namespace RemoveTrips

/-- Whether some trip of the layer has this id. -/
def hasTrip (t : TransitLayer) (id : String) : Bool :=
  t.patterns.any fun p => p.trips.any (·.id = id)

/-- Looks for the routes and the trips. -/
def resolve (m : RemoveTrips) (t : TransitLayer) : RemoveTrips × List Remark :=
  let (foundRoutes, unknownRoutes) := t.lookUpRoutes m.routes
  ({ m with foundRoutes },
    (if m.routes.isEmpty && m.trips.isEmpty then [.nothingToRemove] else []) ++ unknownRoutes ++
      (m.trips.filter fun id => !hasTrip t id).map .unknownTrip)

/-- Whether a trip of a route stays. -/
def keeps (m : RemoveTrips) (route : RouteIndex) (trip : Trip) : Bool :=
  route ∉ m.foundRoutes && trip.id ∉ m.trips

/-- A pattern with the trips that stay. -/
def strip (m : RemoveTrips) (p : Pattern) : Pattern :=
  { p with trips := p.trips.filter (m.keeps p.route) }

/-- Takes the trips out of one pattern, and notes its position if none are left. -/
def stripPattern (m : RemoveTrips) (emptied : IdSet) (i : PatternIndex) :
    Step TransitLayer IdSet := do
  let p ← Step.edit (TransitLayer.openPattern i)
  let stripped := m.strip p
  Step.edit (modify (·.replacePattern i stripped))
  return if stripped.trips.isEmpty then emptied.insert i else emptied

/-- Takes the trips out of every pattern, then drops the patterns at the positions noted, and remarks
if there are as many trips as before. -/
def apply (m : RemoveTrips) : Step TransitLayer Unit := do
  let before ← Step.target
  let emptied ← (List.range before.patterns.length).foldlM m.stripPattern .empty
  Step.edit (modify (·.retainPatternsFrom (fun position _ => (position ∉ emptied, position + 1)) 0))
  let after ← Step.target
  if before.tripCount = after.tripCount then Step.warn .noTripsRemoved

end RemoveTrips

/-! ## Other speeds -/

/-- Divides the travel times of some routes by a number. -/
structure AdjustSpeed where
  routes : List String
  scale : Float
  foundRoutes : List RouteIndex := []
  deriving DecidableEq, Repr

namespace AdjustSpeed

/-- A trip with scaled hops; its first arrival and its dwells stay. -/
def rescale (m : AdjustSpeed) (_ : List StopIndex) (trip : Trip) : Except NetworkError Trip := do
  let d ← trip.durations
  Trip.rebuild trip.id trip.start { d with hops := d.hops.map (·.scale (1.0 / m.scale)) }

/-- Looks for the routes, and tries every trip out if nothing else is wrong. -/
def resolve (m : AdjustSpeed) (t : TransitLayer) : AdjustSpeed × List Remark :=
  let (foundRoutes, unknownRoutes) := t.lookUpRoutes m.routes
  let m := { m with foundRoutes }
  let problems :=
    (if isFactor m.scale then [] else [.badScale m.scale]) ++
      (if m.routes.isEmpty then [.noRoutes] else []) ++ unknownRoutes
  (m, if problems.isEmpty then t.checkRevision foundRoutes m.rescale else problems)

/-- Rescales every trip of the routes and remarks if there is none. -/
def apply (m : AdjustSpeed) : Step TransitLayer Unit := do
  let selected := (← Step.target).patterns.filter (·.route ∈ m.foundRoutes)
  Step.revisePatterns m.foundRoutes m.rescale
  if selected.all (·.trips.isEmpty) then Step.warn .noTripsSelected

end AdjustSpeed

/-! ## Other dwell times -/

/-- Sets or scales the time that vehicles of some routes spend at some stops, or at all stops when
none is listed. -/
structure AdjustDwellTime where
  routes : List String
  stops : List String := []
  dwell : Option Seconds := none
  scale : Option Float := none
  foundRoutes : List RouteIndex := []
  foundStops : List StopIndex := []
  deriving DecidableEq, Repr

namespace AdjustDwellTime

/-- The dwell that a dwell becomes. -/
def newDwell (m : AdjustDwellTime) (current : Seconds) : Seconds :=
  match m.dwell, m.scale with
  | some dwell, _ => dwell
  | none, some scale => current.scale scale
  | none, none => current

/-- Whether the dwell at a stop is changed. -/
def selects (m : AdjustDwellTime) (s : StopIndex) : Bool :=
  m.foundStops.isEmpty || s ∈ m.foundStops

/-- The dwells at the stops of a pattern after the change; there are none if a selected stop has no
dwell. -/
def newDwells? (m : AdjustDwellTime) : List StopIndex → List Seconds → Option (List Seconds)
  | [], dwells => some dwells
  | s :: stops, [] => if (s :: stops).any m.selects then none else some []
  | s :: stops, dwell :: dwells =>
    (m.newDwells? stops dwells).map ((if m.selects s then m.newDwell dwell else dwell) :: ·)

/-- A trip with changed dwells; its first arrival and its hops stay. -/
def redwell (m : AdjustDwellTime) (stops : List StopIndex) (trip : Trip) :
    Except NetworkError Trip := do
  let d ← trip.durations
  match m.newDwells? stops d.dwells with
  | none => throw (.invalidTrip trip.id .unusableTimes)
  | some dwells => Trip.rebuild trip.id trip.start { d with dwells }

/-- What is wrong with the parameters. -/
def faults (m : AdjustDwellTime) : List Remark :=
  (match m.dwell, m.scale with
    | some _, some _ | none, none => [.dwellNotDecided]
    | none, some scale => if isFactor scale then [] else [.badScale scale]
    | some dwell, none => if dayLength < dwell then [.dwellTooLong dwell] else []) ++
    if m.routes.isEmpty then [.noRoutes] else []

/-- Looks for the routes and stops, and tries every trip out if nothing else is wrong. -/
def resolve (m : AdjustDwellTime) (t : TransitLayer) : AdjustDwellTime × List Remark :=
  let (foundRoutes, unknownRoutes) := t.lookUpRoutes m.routes
  let (foundStops, unknownStops) := t.lookUpStops m.stops
  let m := { m with foundRoutes, foundStops }
  let problems := m.faults ++ unknownRoutes ++ unknownStops
  (m, if problems.isEmpty then t.checkRevision foundRoutes m.redwell else problems)

/-- Changes the dwells of every trip of the routes. -/
def apply (m : AdjustDwellTime) : Step TransitLayer Unit :=
  Step.revisePatterns m.foundRoutes m.redwell

end AdjustDwellTime

end Multimodal
