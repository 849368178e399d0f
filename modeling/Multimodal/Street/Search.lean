import Multimodal.Street.Basic

/-! # Searching the street layer

* `StreetLayer.edgesIntersecting`: the edges that an envelope touches.
* `StreetLayer.verticesWithin`, `StreetLayer.nearestVertex?`: the connected vertices around a point.
* `StreetLayer.changedRegion?`: where the layer was touched.
-/

namespace Multimodal

/-- The place of a double in the total order of doubles, which puts `-0.0` right below `0.0`. -/
def floatRank (x : Float) : Int :=
  let bits : Nat := x.toBits.toNat
  let negative : Nat := UInt64.size / 2
  if bits < negative then bits else (negative : Int) - bits - 1

namespace StreetLayer

/-- The two end points of an edge. -/
def endPoints (s : StreetLayer) (edge : StreetEdge) : List Coordinate :=
  (s.vertex? edge.origin).toList ++ (s.vertex? edge.target).toList

/-- The edges whose box around both end points shares a point with the envelope. -/
def edgesIntersecting (s : StreetLayer) (area : Envelope) : List EdgeId :=
  s.liveEdges.filterMap fun (e, edge) =>
    if (Envelope.covering (s.endPoints edge)).any (·.intersects area) then some e else none

/-- Whether a found vertex comes no later than another: nearer first, then the lower position. -/
def nearer (a b : VertexId × Float) : Bool :=
  floatRank a.2 < floatRank b.2 || (floatRank a.2 = floatRank b.2 && a.1 ≤ b.1)

/-- The vertices with an edge end that are no further away than the radius, nearest first, each with
its distance. -/
def verticesWithin (s : StreetLayer) (p : Coordinate) (radius : Float) : List (VertexId × Float) :=
  let found := s.vertices.toList.zipIdx.filterMap fun (c, v) =>
    if 0 < s.degree v && c.distance p ≤ radius then some (v, c.distance p) else none
  found.mergeSort nearer

/-- The nearest of these vertices. -/
def nearestVertex? (s : StreetLayer) (p : Coordinate) (radius : Float) :
    Option (VertexId × Float) :=
  (s.verticesWithin p radius).head?

/-- The box around every touched edge, widened by a distance; none if no edge was touched. -/
def changedRegion? (s : StreetLayer) (metres : Float) : Option Envelope :=
  let touched := s.changes.all.toList.filterMap fun e => s.edges[e]?
  (Envelope.covering (touched.flatMap s.endPoints)).map (·.buffered metres)

end StreetLayer

end Multimodal
