import Multimodal.Street.Basic
import Multimodal.Digest.Record
import Multimodal.Digest.Tree

/-! # The content of the street layer

What two layers must have in common to count as equal: the vertices and the edges that are not
removed, in order.  Positions of edges, edge lists and touched edges do not count.

* `StreetLayer.records`: the content, record by record.
* `StreetLayer.digest`: its hash.
-/

namespace Multimodal

/-- The record of a vertex. -/
def vertexRecord (c : Coordinate) : Record :=
  ⟨"street-vertex", [.signed c.latitudeUnits, .signed c.longitudeUnits]⟩

/-- The record of an edge. -/
def StreetEdge.record (e : StreetEdge) : Record :=
  ⟨"street-edge", [.word e.origin.toUInt32, .word e.target.toUInt32, .word e.length,
    .word e.speed.toUInt32, .word e.permissions.bits.toUInt32]⟩

namespace StreetLayer

/-- The records of the layer, vertices first. -/
def records (s : StreetLayer) : List Record :=
  s.vertices.toList.map vertexRecord ++ s.liveEdges.map fun (_, edge) => edge.record

/-- The hash of the layer's content. -/
def digest (s : StreetLayer) : ContentHash := digestRoot (s.records.map Record.hash)

end StreetLayer

end Multimodal
