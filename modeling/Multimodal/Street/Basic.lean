import Multimodal.Geo.Envelope
import Multimodal.IdSet
import Multimodal.MemberLists
import Multimodal.Network.Error

/-! # The street layer

A directed graph of streets.  Records are never taken out, so positions stay valid: a removed edge is
marked as removed.  Edge lists by vertex are derived and lag behind until they are rebuilt; the layer
also notes which edges were touched since it was copied for a scenario.

* `Permissions`, `StreetEdge`, `EdgeChanges`, `StreetLayer`: the records.
* `StreetLayer.edge?`, `StreetLayer.liveEdges`: what is left of the graph.
* `addVertex`, `addEdge`, `addStreet`, `removeEdge`, `setSpeed`, `setPermissions`: the changes.
* `StreetLayer.withEdgeLists`: the layer with up-to-date edge lists.
-/

namespace Multimodal

/-! ## Edges -/

/-- The modes that may use an edge, one bit each. -/
structure Permissions where
  bits : UInt8
  deriving DecidableEq, Repr

namespace Permissions

/-- Walking, cycling and driving. -/
def all : Permissions := ⟨7⟩

/-- Whether every mode of the other set is allowed. -/
def contains (p q : Permissions) : Bool := p.bits &&& q.bits = q.bits

/-- The modes of either set. -/
def union (p q : Permissions) : Permissions := ⟨p.bits ||| q.bits⟩

end Permissions

/-- Kilometres per hour in one centimetre per second. -/
def kphPerCms : Float := 0.036

/-- A speed as it is stored, in centimetres per second: rounded, and between one and the largest that
can be stored. -/
def storedSpeed (cms : Float) : UInt16 := (bounded 1.0 65535.0 cms.round).toUInt16

/-- The stored form of a speed in kilometres per hour. -/
def speedOfKph (kph : Float) : UInt16 := storedSpeed (kph / kphPerCms)

/-- A directed edge; its length is in millimetres and its speed in centimetres per second. -/
structure StreetEdge where
  origin : VertexId
  target : VertexId
  length : UInt32
  speed : UInt16
  permissions : Permissions
  removed : Bool := false
  deriving DecidableEq, Repr

/-- The speed in kilometres per hour. -/
def StreetEdge.kph (e : StreetEdge) : Float := e.speed.toFloat * kphPerCms

/-- The length of an edge between two points, at least one millimetre. -/
def edgeLength (a b : Coordinate) : UInt32 := (greater (a.distance b * 1000.0).round 1.0).toUInt32

/-! ## Changes -/

/-- The edges that were touched since a layer was copied. -/
structure EdgeChanges where
  added : IdSet := {}
  removed : IdSet := {}
  altered : IdSet := {}
  deriving DecidableEq

namespace EdgeChanges

/-- Every touched edge. -/
def all (c : EdgeChanges) : IdSet := (c.added.union c.removed).union c.altered

/-- Whether no edge was touched. -/
def isEmpty (c : EdgeChanges) : Bool := c.added.isEmpty && c.removed.isEmpty && c.altered.isEmpty

end EdgeChanges

/-! ## The layer -/

/-- A street graph.  `liveDegree` counts the edge ends at each vertex that are not removed, with
counters of 32 bits that wrap around, and `outgoing` and `incoming` hold the edge lists as they were
last built. -/
structure StreetLayer where
  vertices : Array Coordinate := #[]
  edges : Array StreetEdge := #[]
  liveDegree : Array UInt32 := #[]
  outgoing : Array (List EdgeId) := #[]
  incoming : Array (List EdgeId) := #[]
  edgeListsStale : Bool := false
  changes : EdgeChanges := {}
  deriving DecidableEq

namespace StreetLayer

/-- The coordinate of a vertex. -/
def vertex? (s : StreetLayer) (v : VertexId) : Option Coordinate := s.vertices[v]?

/-- The edge with this position, unless it is removed. -/
def edge? (s : StreetLayer) (e : EdgeId) : Option StreetEdge := s.edges[e]?.filter (!·.removed)

/-- All edges that are not removed, with their positions. -/
def liveEdges (s : StreetLayer) : List (EdgeId × StreetEdge) :=
  s.edges.toList.zipIdx.filterMap fun (edge, e) => if edge.removed then none else some (e, edge)

/-- The counter of the edge ends at a vertex. -/
def degree (s : StreetLayer) (v : VertexId) : UInt32 := s.liveDegree[v]?.getD 0

/-- The edges that left the vertex when the edge lists were last built. -/
def outgoingEdges (s : StreetLayer) (v : VertexId) : List EdgeId := s.outgoing[v]?.getD []

/-- The edges that entered the vertex when the edge lists were last built. -/
def incomingEdges (s : StreetLayer) (v : VertexId) : List EdgeId := s.incoming[v]?.getD []

/-- The layer with nothing noted as touched. -/
def forgetChanges (s : StreetLayer) : StreetLayer := { s with changes := {} }

/-! ## Adding -/

/-- The layer with one more vertex, which no edge meets. -/
def withVertex (s : StreetLayer) (c : Coordinate) : StreetLayer :=
  { s with
    vertices := s.vertices.push c
    liveDegree := s.liveDegree.push 0
    edgeListsStale := true }

/-- Adds a vertex and answers its position. -/
def addVertex (c : Coordinate) : Edit StreetLayer VertexId := do
  let s ← get
  set (s.withVertex c)
  return s.vertices.size

/-- The layer with one more edge, noted as added. -/
def withEdge (s : StreetLayer) (edge : StreetEdge) : StreetLayer :=
  { s with
    edges := s.edges.push edge
    liveDegree := (s.liveDegree.modify edge.origin (· + 1)).modify edge.target (· + 1)
    edgeListsStale := true
    changes := { s.changes with added := s.changes.added.insert s.edges.size } }

/-- Adds a directed edge between two vertices and answers its position. -/
def addEdge (origin target : VertexId) (speed : UInt16) (permissions : Permissions) :
    Edit StreetLayer EdgeId := do
  let s ← get
  let some a := s.vertex? origin | throw (.vertexNotFound origin)
  let some b := s.vertex? target | throw (.vertexNotFound target)
  set (s.withEdge ⟨origin, target, edgeLength a b, speed, permissions, false⟩)
  return s.edges.size

/-- Adds an edge in either direction. -/
def addStreet (a b : VertexId) (speed : UInt16) (permissions : Permissions) :
    Edit StreetLayer (EdgeId × EdgeId) := do
  let there ← addEdge a b speed permissions
  let back ← addEdge b a speed permissions
  return (there, back)

/-! ## Removing and altering -/

/-- The layer with an edge marked as removed. -/
def withoutEdge (s : StreetLayer) (e : EdgeId) (edge : StreetEdge) : StreetLayer :=
  { s with
    edges := s.edges.modify e fun edge => { edge with removed := true }
    liveDegree := (s.liveDegree.modify edge.origin (· - 1)).modify edge.target (· - 1)
    edgeListsStale := true
    changes := { s.changes with removed := s.changes.removed.insert e } }

/-- Removes an edge that is not removed yet. -/
def removeEdge (e : EdgeId) : Edit StreetLayer Unit := do
  let s ← get
  let some edge := s.edge? e | throw (.edgeNotFound e)
  set (s.withoutEdge e edge)

/-- The layer with an edge altered in place. -/
def withAltered (s : StreetLayer) (e : EdgeId) (f : StreetEdge → StreetEdge) : StreetLayer :=
  { s with
    edges := s.edges.modify e f
    changes := { s.changes with altered := s.changes.altered.insert e } }

/-- Alters an edge that is not removed. -/
def alterEdge (e : EdgeId) (f : StreetEdge → StreetEdge) : Edit StreetLayer Unit := do
  let s ← get
  if (s.edge? e).isNone then throw (.edgeNotFound e)
  set (s.withAltered e f)

/-- Changes the speed of an edge. -/
def setSpeed (e : EdgeId) (speed : UInt16) : Edit StreetLayer Unit :=
  alterEdge e fun edge => { edge with speed }

/-- Changes the modes that may use an edge. -/
def setPermissions (e : EdgeId) (permissions : Permissions) : Edit StreetLayer Unit :=
  alterEdge e fun edge => { edge with permissions }

/-! ## Edge lists -/

/-- The layer with edge lists built from the edges that are not removed. -/
def withEdgeLists (s : StreetLayer) : StreetLayer :=
  { s with
    outgoing := memberLists s.vertices.size (s.liveEdges.map fun (e, edge) => (edge.origin, e))
    incoming := memberLists s.vertices.size (s.liveEdges.map fun (e, edge) => (edge.target, e))
    edgeListsStale := false }

end StreetLayer

end Multimodal
