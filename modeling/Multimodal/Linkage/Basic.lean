import Multimodal.Street.Search
import Multimodal.Transit.Basic

/-! # The linkage of stops to streets

Everything here follows from the two layers: the vertex that each stop is linked to and the vertices
around each stop.  It is kept apart from both layers, so that it can be rebuilt while a layer stays
as it is.

* `LinkageParams`, `StopLink`, `StopAccess`, `Linkage`: what is recorded.
* `StopSelection`: which stops to look at again.
* `Linkage.linkStops`: the linkage with the selected stops linked anew.
-/

namespace Multimodal

/-- The radii of the linkage, in metres: how far a stop may be from its vertex, which vertices are
recorded around a stop, and how far a transfer may lead. -/
structure LinkageParams where
  linkRadius : Float := 300.0
  treeRadius : Float := 2000.0
  transferRadius : Float := 1000.0
  deriving DecidableEq, Repr

/-- The link of a stop: not looked for yet, not found, or found. -/
inductive StopLink
  | pending
  | unlinked
  | linked (v : VertexId)
  deriving DecidableEq, Repr

/-- The vertex of a link. -/
def StopLink.vertex? : StopLink → Option VertexId
  | linked v => some v
  | pending | unlinked => none

/-- A walk to another stop, with its length in millimetres. -/
structure Transfer where
  target : StopIndex
  distance : UInt32
  deriving DecidableEq, Repr

/-- What is recorded for one stop: its link, the vertices around it with their distances in
millimetres, and the transfers that start at it. -/
structure StopAccess where
  link : StopLink := .pending
  tree : List (VertexId × UInt32) := []
  transfers : List Transfer := []
  deriving DecidableEq, Repr

/-- The access of every stop that is covered so far. -/
structure Linkage where
  stops : Array StopAccess := #[]
  deriving DecidableEq, Repr

/-- Which stops are linked anew: all of them, those not looked at yet, or these and those inside an
area. -/
inductive StopSelection
  | all
  | pending
  | pendingOrWithin (area : Envelope)
  deriving DecidableEq, Repr

namespace Linkage

/-- The access of a stop; a stop that is not covered has not been looked at. -/
def access (l : Linkage) (s : StopIndex) : StopAccess := l.stops[s]?.getD {}

/-- The link of a stop. -/
def link (l : Linkage) (s : StopIndex) : StopLink := (l.access s).link

/-- The transfers that start at a stop. -/
def transfers (l : Linkage) (s : StopIndex) : List Transfer := (l.access s).transfers

/-- The number of transfers. -/
def transferCount (l : Linkage) : Nat := (l.stops.toList.flatMap (·.transfers)).length

/-- The linkage over so many stops, the new ones not looked at. -/
def resize (l : Linkage) (n : Nat) : Linkage :=
  ⟨l.stops.take n ++ Array.replicate (n - l.stops.size) ({} : StopAccess)⟩

/-- Whether a stop is to be linked anew. -/
def isSelected (l : Linkage) (selection : StopSelection) (s : StopIndex) (p : Coordinate) : Bool :=
  match selection with
  | .all => true
  | .pending => l.link s = .pending
  | .pendingOrWithin area => l.link s = .pending || area.contains p

/-- The stops that are to be linked anew. -/
def selected (l : Linkage) (t : TransitLayer) (selection : StopSelection) : List StopIndex :=
  t.stops.toList.zipIdx.filterMap fun (stop, s) =>
    if l.isSelected selection s stop.coordinate then some s else none

end Linkage

/-- The link of a point and the vertices around it; a point without a vertex close enough has
neither. -/
def accessOf (street : StreetLayer) (params : LinkageParams) (p : Coordinate) :
    StopLink × List (VertexId × UInt32) :=
  match street.nearestVertex? p params.linkRadius with
  | none => (.unlinked, [])
  | some (v, _) =>
    (.linked v, (street.verticesWithin p params.treeRadius).map fun (u, d) => (u, millimetres d))

namespace Linkage

/-- The linkage with one stop linked anew; its transfers stay as they are. -/
def relink (street : StreetLayer) (t : TransitLayer) (params : LinkageParams) (l : Linkage)
    (s : StopIndex) : Linkage :=
  match t.stops[s]? with
  | none => l
  | some stop =>
    let (link, tree) := accessOf street params stop.coordinate
    ⟨l.stops.modify s fun access => { access with link, tree }⟩

/-- The linkage over all stops with the selected ones linked anew, and the stops that were. -/
def linkStops (l : Linkage) (street : StreetLayer) (t : TransitLayer) (params : LinkageParams)
    (selection : StopSelection) : Linkage × List StopIndex :=
  let whole := l.resize t.stops.size
  let dirty := whole.selected t selection
  (dirty.foldl (relink street t params) whole, dirty)

end Linkage

end Multimodal
