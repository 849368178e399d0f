import Multimodal.Transit.Trip

/-! # What a network refuses

* `VertexId`, `EdgeId`, `StopIndex`, `PatternIndex`, `RouteIndex`: positions of records, with the
  labels that messages use for them.
* `NetworkPart`: the parts of a network that several holders can share.
* `NetworkError`: why an operation on a network was refused, and its wording.
* `Edit`: an operation that changes a part of a network or is refused.
-/

namespace Multimodal

/-! ## Positions of records -/

/-- Position of a street vertex. -/
abbrev VertexId := Nat

/-- Position of a street edge. -/
abbrev EdgeId := Nat

/-- Position of a stop. -/
abbrev StopIndex := Nat

/-- Position of a pattern. -/
abbrev PatternIndex := Nat

/-- Position of a route. -/
abbrev RouteIndex := Nat

def VertexId.label (v : VertexId) : String := s!"v{v}"
def EdgeId.label (e : EdgeId) : String := s!"e{e}"
def StopIndex.label (s : StopIndex) : String := s!"s{s}"
def PatternIndex.label (p : PatternIndex) : String := s!"p{p}"
def RouteIndex.label (r : RouteIndex) : String := s!"r{r}"

/-! ## Errors -/

/-- The parts of a network that are shared one by one. -/
inductive NetworkPart
  | street
  | transit
  | linkage
  deriving DecidableEq, Repr

/-- The name of a part in messages. -/
def NetworkPart.name : NetworkPart → String
  | street => "street layer"
  | transit => "transit layer"
  | linkage => "stop linkage"

/-- Why an operation on a network was refused. -/
inductive NetworkError
  | partShared (part : NetworkPart)
  | vertexNotFound (id : VertexId)
  | edgeNotFound (id : EdgeId)
  | stopNotFound (index : StopIndex)
  | routeNotFound (index : RouteIndex)
  | patternNotFound (index : PatternIndex)
  | duplicateStop (id : String)
  | duplicateRoute (id : String)
  | invalidTrip (trip : String) (problem : TripProblem)
  deriving DecidableEq, Repr

/-- The wording of an error. -/
def NetworkError.message : NetworkError → String
  | partShared part => s!"{part.name} is shared with the baseline and may not be mutated"
  | vertexNotFound id => s!"vertex {id.label} not found"
  | edgeNotFound id => s!"edge {id.label} not found"
  | stopNotFound index => s!"stop {index.label} not found"
  | routeNotFound index => s!"route {index.label} not found"
  | patternNotFound index => s!"pattern {index.label} not found"
  | duplicateStop id => s!"duplicate stop id: {id}"
  | duplicateRoute id => s!"duplicate route id: {id}"
  | invalidTrip trip problem => s!"trip {trip}: {problem.message}"

/-- A change to something of type `σ` that may be refused.  What it had done before it was refused
stays done. -/
abbrev Edit (σ α : Type) := EStateM NetworkError σ α

/-- What a change answers, and what it leaves behind. -/
def Edit.attempt {σ α : Type} (edit : Edit σ α) (s : σ) : Except NetworkError α × σ :=
  match edit s with
  | .ok a s => (.ok a, s)
  | .error e s => (.error e, s)

/-! ## Trips by name -/

/-- The trip that durations describe; a failure names the trip. -/
def Trip.build (id : String) (first : Seconds) (d : Durations) : Except NetworkError Trip :=
  (Trip.ofDurations id first d).mapError (.invalidTrip id)

/-- Accepts a trip that runs over so many stops. -/
def Trip.validate (t : Trip) (stops : Nat) : Except NetworkError Unit :=
  match t.problem? stops with
  | none => .ok ()
  | some problem => .error (.invalidTrip t.id problem)

/-- The dwells and hops of a trip; a failure names the trip. -/
def Trip.durations (t : Trip) : Except NetworkError Durations :=
  match t.durations? with
  | some d => .ok d
  | none => .error (.invalidTrip t.id .unusableTimes)

end Multimodal
