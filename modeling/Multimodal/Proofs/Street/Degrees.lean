import Multimodal.Proofs.Digest.Content
import Multimodal.Proofs.Street.Changes
import Multimodal.Sample

/-! # What the degrees count

The degree of a vertex is kept up to date by every operation, so it is the number of edge ends that
are left at the vertex, as far as 32 bits hold it.  Layers with the same vertices and the same edges
left therefore have the same degrees, whatever edges they had before.

* `edgeEnds`, `StreetLayer.endsAt`: the edge ends at a vertex, counted edge by edge.
* `StreetLayer.Counted`: the degrees are these numbers modulo `2^32`.
* `degree_withEdge`, `degree_withoutEdge`: what one edge more or less does to a degree.
* `liveDegree_eq_of_counted`: the vertices and the edges left decide the degrees.
-/

namespace Multimodal

/-- The number of edge ends at a vertex; a loop has both of its ends there. -/
def edgeEnds (edges : List StreetEdge) (v : VertexId) : Nat :=
  edges.countP (·.origin = v) + edges.countP (·.target = v)

theorem edgeEnds_singleton (edge : StreetEdge) (v : VertexId) :
    edgeEnds [edge] v = (if edge.origin = v then 1 else 0) + if edge.target = v then 1 else 0 := by
  unfold edgeEnds
  simp only [List.countP_singleton, decide_eq_true_eq]

theorem edgeEnds_of_size_le {edge : StreetEdge} {size : Nat}
    (hends : edge.origin < size ∧ edge.target < size) {v : VertexId} (hv : size ≤ v) :
    edgeEnds [edge] v = 0 := by
  have hfrom : edge.origin ≠ v := Nat.ne_of_lt (Nat.lt_of_lt_of_le hends.1 hv)
  have hto : edge.target ≠ v := Nat.ne_of_lt (Nat.lt_of_lt_of_le hends.2 hv)
  rw [edgeEnds_singleton, if_neg hfrom, if_neg hto]

theorem edgeEnds_cons (edge : StreetEdge) (edges : List StreetEdge) (v : VertexId) :
    edgeEnds (edge :: edges) v = edgeEnds edges v + edgeEnds [edge] v := by
  rw [edgeEnds_singleton]
  unfold edgeEnds
  rw [List.countP_cons, List.countP_cons]
  simp only [decide_eq_true_eq]
  omega

namespace StreetLayer

/-- The number of edge ends that are left at a vertex. -/
def endsAt (s : StreetLayer) (v : VertexId) : Nat := edgeEnds s.keptEdges v

/-- No edge that is left ends where there is no vertex, and the degrees are the numbers of edge ends
that are left, counted with wrapping counters. -/
structure Counted (s : StreetLayer) : Prop where
  aligned : s.Aligned
  ends : ∀ v, s.vertices.size ≤ v → s.endsAt v = 0
  degree : ∀ v, s.degree v = UInt32.ofNat (s.endsAt v)

/-! ## Counting the edges left -/

section Count

variable {s : StreetLayer} {e : EdgeId} {edge : StreetEdge} (p : StreetEdge → Bool)

theorem countP_modify {l : List StreetEdge} (h : l[e]? = some edge) (f : StreetEdge → StreetEdge) :
    (l.modify e f).countP p + (if p edge then 1 else 0) =
      l.countP p + if p (f edge) then 1 else 0 := by
  obtain ⟨hlt, hget⟩ := List.getElem?_eq_some_iff.1 h
  have hset : l.modify e f = l.set e (f edge) := by simp [List.modify_eq_set_getElem?, h]
  have hcounted : (if p edge then 1 else 0) ≤ l.countP p := by
    split
    · exact List.countP_pos_iff.2 ⟨edge, List.mem_of_getElem? h, by assumption⟩
    · exact Nat.zero_le _
  rw [hset, List.countP_set hlt, hget]
  omega

theorem countP_withEdge (h : edge.removed = false) :
    (s.withEdge edge).keptEdges.countP p = s.keptEdges.countP p + if p edge then 1 else 0 := by
  simp [keptEdges, withEdge, h, List.countP_append, List.countP_singleton]

theorem countP_withoutEdge (h : s.edge? e = some edge) :
    (s.withoutEdge e edge).keptEdges.countP p + (if p edge then 1 else 0) =
      s.keptEdges.countP p := by
  have hlive : edge.removed = false := by simpa using (Option.filter_eq_some_iff.1 h).2
  have hget : s.edges.toList[e]? = some edge := by
    rw [Array.getElem?_toList]
    exact getElem?_of_edge? h
  have hcount := countP_modify (fun x => p x && !x.removed) hget
    fun x => { x with removed := true }
  simpa [keptEdges, withoutEdge, List.countP_filter, hlive] using hcount

theorem countP_withAltered {f : StreetEdge → StreetEdge} (h : s.edge? e = some edge)
    (hf : (f edge).SameCourse edge) (hp : p (f edge) = p edge) :
    (s.withAltered e f).keptEdges.countP p = s.keptEdges.countP p := by
  have hget : s.edges.toList[e]? = some edge := by
    rw [Array.getElem?_toList]
    exact getElem?_of_edge? h
  have hcount := countP_modify (fun x => p x && !x.removed) hget f
  rw [hp, hf.removed] at hcount
  simpa [keptEdges, withAltered, List.countP_filter] using hcount

end Count

theorem endsAt_withEdge {s : StreetLayer} {edge : StreetEdge} (h : edge.removed = false)
    (v : VertexId) : (s.withEdge edge).endsAt v = s.endsAt v + edgeEnds [edge] v := by
  rw [edgeEnds_singleton]
  unfold endsAt edgeEnds
  rw [countP_withEdge _ h, countP_withEdge _ h]
  simp only [decide_eq_true_eq]
  omega

theorem endsAt_withoutEdge {s : StreetLayer} {e : EdgeId} {edge : StreetEdge}
    (h : s.edge? e = some edge) (v : VertexId) :
    (s.withoutEdge e edge).endsAt v + edgeEnds [edge] v = s.endsAt v := by
  rw [edgeEnds_singleton]
  unfold endsAt edgeEnds
  have hfrom := countP_withoutEdge (·.origin = v) h
  have hto := countP_withoutEdge (·.target = v) h
  simp only [decide_eq_true_eq] at hfrom hto
  omega

theorem endsAt_withAltered {s : StreetLayer} {e : EdgeId} {edge : StreetEdge}
    {f : StreetEdge → StreetEdge} (h : s.edge? e = some edge) (hf : (f edge).SameCourse edge)
    (v : VertexId) : (s.withAltered e f).endsAt v = s.endsAt v := by
  unfold endsAt edgeEnds
  rw [countP_withAltered _ h hf (by rw [hf.origin]), countP_withAltered _ h hf (by rw [hf.target])]

/-! ## Degrees -/

theorem getD_modify {degrees : Array UInt32} {a : Nat} (ha : a < degrees.size)
    (f : UInt32 → UInt32) (v : Nat) : ((degrees.modify a f)[v]?).getD 0 =
      if a = v then f ((degrees[v]?).getD 0) else (degrees[v]?).getD 0 := by
  rw [Array.getElem?_modify]
  split
  · rename_i hav
    rw [← hav, Array.getElem?_eq_getElem ha]
    rfl
  · rfl

theorem getD_map_of_size_le {degrees : Array UInt32} {f : UInt32 → UInt32} {v : VertexId}
    (h : degrees.size ≤ v → f 0 = 0) :
    ((degrees[v]?).map f).getD 0 = f ((degrees[v]?).getD 0) := by
  by_cases hv : v < degrees.size
  · rw [Array.getElem?_eq_getElem hv]
    rfl
  · have hv := Nat.not_lt.1 hv
    rw [Array.getElem?_eq_none hv]
    exact (h hv).symm

/-- One edge more or less changes the degrees by the ends of the edge. -/
theorem getElem?_modify_ends (degrees : Array UInt32) (edge : StreetEdge) (step : UInt32)
    (v : VertexId) :
    ((degrees.modify edge.origin (· + step)).modify edge.target (· + step))[v]? =
      degrees[v]?.map (· + UInt32.ofNat (edgeEnds [edge] v) * step) := by
  rw [Array.getElem?_modify, Array.getElem?_modify, edgeEnds_singleton]
  cases degrees[v]? with
  | none => simp
  | some degree =>
    by_cases hfrom : edge.origin = v
    · by_cases hto : edge.target = v
      · have htwice : degree + step + step = degree + 2 * step := by grind
        simpa [hfrom, hto] using htwice
      · simp [hfrom, hto]
    · by_cases hto : edge.target = v <;> simp [hfrom, hto]

theorem getElem?_liveDegree_withEdge (s : StreetLayer) (edge : StreetEdge) (v : VertexId) :
    (s.withEdge edge).liveDegree[v]? =
      s.liveDegree[v]?.map (· + UInt32.ofNat (edgeEnds [edge] v)) := by
  refine (getElem?_modify_ends s.liveDegree edge 1 v).trans ?_
  simp only [UInt32.mul_one]

theorem getElem?_liveDegree_withoutEdge (s : StreetLayer) (e : EdgeId) (edge : StreetEdge)
    (v : VertexId) : (s.withoutEdge e edge).liveDegree[v]? =
      s.liveDegree[v]?.map (· - UInt32.ofNat (edgeEnds [edge] v)) := by
  have hdown : (fun degree : UInt32 => degree - 1) = (· + -1) :=
    funext fun degree => UInt32.sub_eq_add_neg degree 1
  show ((s.liveDegree.modify _ (· - 1)).modify _ (· - 1))[v]? = _
  rw [hdown, getElem?_modify_ends]
  simp only [UInt32.mul_neg, UInt32.mul_one, UInt32.sub_eq_add_neg]

section

variable {s : StreetLayer} {edge : StreetEdge}
  (hends : edge.origin < s.liveDegree.size ∧ edge.target < s.liveDegree.size)
include hends

theorem degree_withEdge (v : VertexId) :
    (s.withEdge edge).degree v = s.degree v + UInt32.ofNat (edgeEnds [edge] v) := by
  unfold degree
  rw [getElem?_liveDegree_withEdge]
  refine getD_map_of_size_le fun hv => ?_
  rw [edgeEnds_of_size_le hends hv]
  rfl

theorem degree_withoutEdge (e : EdgeId) (v : VertexId) :
    (s.withoutEdge e edge).degree v = s.degree v - UInt32.ofNat (edgeEnds [edge] v) := by
  unfold degree
  rw [getElem?_liveDegree_withoutEdge]
  refine getD_map_of_size_le fun hv => ?_
  rw [edgeEnds_of_size_le hends hv]
  rfl

end

theorem counted_empty : Counted {} := ⟨aligned_empty, fun _ _ => rfl, fun _ => rfl⟩

/-- A vertex that is an end of an edge left has a degree. -/
theorem Counted.lt_of_end {s : StreetLayer} (h : s.Counted) {e : EdgeId} {edge : StreetEdge}
    (hedge : s.edge? e = some edge) :
    edge.origin < s.liveDegree.size ∧ edge.target < s.liveDegree.size := by
  have hlt : ∀ v, 0 < edgeEnds [edge] v → v < s.liveDegree.size := by
    intro v hend
    rw [h.aligned]
    by_contra hge
    have hnone := h.ends v (Nat.not_lt.1 hge)
    have hleft := endsAt_withoutEdge hedge v
    omega
  exact ⟨hlt _ (by simp [edgeEnds_singleton]), hlt _ (by simp [edgeEnds_singleton])⟩

/-- No operation on the streets miscounts. -/
theorem stable_counted : Stable Counted where
  vertex s c h := by
    refine ⟨stable_aligned.vertex s c h.aligned, fun v hv => ?_, fun v => ?_⟩
    · have hsize : s.vertices.size + 1 ≤ v := by rwa [← Array.size_push c]
      exact h.ends v (Nat.le_of_succ_le hsize)
    · rw [degree_withVertex, h.degree]
      rfl
  edge s edge h horigin htarget hlive := by
    refine ⟨stable_aligned.edge s edge h.aligned horigin htarget hlive, fun v hv => ?_, fun v => ?_⟩
    · have hv : s.vertices.size ≤ v := hv
      rw [endsAt_withEdge hlive, h.ends v hv, edgeEnds_of_size_le ⟨horigin, htarget⟩ hv]
    · have hends : edge.origin < s.liveDegree.size ∧ edge.target < s.liveDegree.size := by
        rw [h.aligned]
        exact ⟨horigin, htarget⟩
      rw [degree_withEdge hends, h.degree, endsAt_withEdge hlive, UInt32.ofNat_add]
  removal s e edge h hedge := by
    refine ⟨stable_aligned.removal s e edge h.aligned hedge, fun v hv => ?_, fun v => ?_⟩
    · have hnone := h.ends v hv
      have hleft := endsAt_withoutEdge hedge v
      omega
    · rw [degree_withoutEdge (h.lt_of_end hedge), h.degree, ← endsAt_withoutEdge hedge v,
        UInt32.ofNat_add, UInt32.add_sub_cancel]
  alteration s e edge f h hedge hf := by
    refine ⟨h.aligned, fun v hv => ?_, fun v => ?_⟩
    · rw [endsAt_withAltered hedge (hf edge)]
      exact h.ends v hv
    · rw [endsAt_withAltered hedge (hf edge)]
      exact h.degree v

theorem Counted.forgetChanges {s : StreetLayer} (h : s.Counted) : s.forgetChanges.Counted :=
  ⟨h.aligned, h.ends, h.degree⟩

theorem Counted.withEdgeLists {s : StreetLayer} (h : s.Counted) : s.withEdgeLists.Counted :=
  ⟨h.aligned, h.ends, h.degree⟩

theorem counted_build {street : StreetLayer} (h : street.Counted) (transit : TransitLayer)
    (params : LinkageParams) : (Network.build street transit params).street.content.Counted :=
  h.withEdgeLists.forgetChanges

/-- The vertices and the edges left decide the degrees. -/
theorem liveDegree_eq_of_counted {s t : StreetLayer} (hs : s.Counted) (ht : t.Counted)
    (hvertices : s.vertices = t.vertices) (hkept : s.keptEdges = t.keptEdges) :
    s.liveDegree = t.liveDegree := by
  have hsize : s.liveDegree.size = t.liveDegree.size := by
    rw [hs.aligned, ht.aligned, hvertices]
  refine Array.ext hsize fun v hv hv' => ?_
  have hdegree : s.degree v = t.degree v := by rw [hs.degree, ht.degree, endsAt, endsAt, hkept]
  unfold degree at hdegree
  rwa [Array.getElem?_eq_getElem hv, Array.getElem?_eq_getElem hv'] at hdegree

end StreetLayer

namespace Sample

/-- The streets of the grid have every property that no operation breaks. -/
theorem stable_grid {S : StreetLayer → Prop} (h : StreetLayer.Stable S) (hempty : S {})
    (size : Nat) : S (grid size) := by
  refine Keeps.attempt (Keeps.bind ?_ fun _ => ?_) hempty
  · exact Keeps.forM fun cell _ => Keeps.bind (h.addVertex _) fun _ => Keeps.pure
  · refine Keeps.forM fun cell _ => ?_
    unfold streetsFrom
    have hnorth : Keeps S
        (if cell.1 + 1 < size then do
          let _ ← StreetLayer.addStreet (cell.1 * size + cell.2)
            (cell.1 * size + cell.2 + size) (speedOfKph 30.0) .all
        else pure ()) := by
      by_cases hrow : cell.1 + 1 < size
      · rw [if_pos hrow]
        exact Keeps.bind (h.addStreet _ _ _ _) fun _ => Keeps.pure
      · rw [if_neg hrow]
        exact Keeps.pure
    by_cases hcolumn : cell.2 + 1 < size
    · simp only [if_pos hcolumn]
      exact Keeps.bind (h.addStreet _ _ _ _) fun _ => hnorth
    · simp only [if_neg hcolumn]
      exact hnorth

theorem counted_grid (size : Nat) : (grid size).Counted :=
  stable_grid StreetLayer.stable_counted StreetLayer.counted_empty size

end Sample

end Multimodal
