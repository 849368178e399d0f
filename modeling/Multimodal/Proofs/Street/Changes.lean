import Mathlib
import Multimodal.Linkage.Basic
import Multimodal.Proofs.Street.Edits

/-! # What a changed street layer still answers

Vertices are only added, and a vertex gains or loses its last edge end only if an edge that meets it
is noted as touched.  So around a point that no touched edge comes near, a search finds what it found
before.

* `StreetLayer.Aligned`: every vertex has its degree.
* `StreetLayer.Continues`: how a layer relates to the one that it was copied from.
* `verticesWithin_eq_of_continues`: searches away from touched edges.
-/

namespace Multimodal

/-! ## Longer lists -/

/-- The first list has some entries more than the second at its end. -/
def Extends {α : Type} (xs ys : Array α) : Prop := ∃ more, xs = ys ++ more

namespace Extends

variable {α : Type} {xs ys : Array α}

theorem refl (xs : Array α) : Extends xs xs := ⟨#[], by rw [Array.append_empty]⟩

theorem push (h : Extends xs ys) (a : α) : Extends (xs.push a) ys := by
  obtain ⟨more, rfl⟩ := h
  exact ⟨more.push a, by rw [Array.append_push]⟩

theorem getElem? (h : Extends xs ys) {i : Nat} (hi : i < ys.size) : xs[i]? = ys[i]? := by
  obtain ⟨more, rfl⟩ := h
  exact Array.getElem?_append_left hi

theorem getElem?_eq_some (h : Extends xs ys) {i : Nat} {a : α} (ha : ys[i]? = some a) :
    xs[i]? = some a :=
  (h.getElem? (Array.getElem?_eq_some_iff.1 ha).1).trans ha

/-- The first entry that passes a test stays the first one when others are added at the end. -/
theorem findIdx? (h : Extends xs ys) {p : α → Bool} {i : Nat} (hi : ys.findIdx? p = some i) :
    xs.findIdx? p = some i := by
  obtain ⟨more, rfl⟩ := h
  rw [Array.findIdx?_append, hi]
  rfl

end Extends

/-! ## Numbered lists -/

/-- The numbers of a numbered list ascend. -/
theorem pairwise_zipIdx {α : Type} (xs : List α) (i : Nat) :
    (xs.zipIdx i).Pairwise fun a b => a.2 < b.2 := by
  rw [← List.pairwise_map (f := Prod.snd) (R := (· < ·)), List.zipIdx_map_snd]
  exact List.pairwise_lt_range'

theorem mem_filterMap_zipIdx {α β : Type} {xs : Array α} {f : α × Nat → Option β} {b : β} :
    b ∈ xs.toList.zipIdx.filterMap f ↔ ∃ i x, xs[i]? = some x ∧ f (x, i) = some b := by
  simp only [List.mem_filterMap, Prod.exists, List.mem_zipIdx_iff_getElem?, Array.getElem?_toList]
  exact exists_comm

/-- What is picked from a numbered list comes in the order of its numbers. -/
theorem pairwise_filterMap_zipIdx {α β : Type} {xs : Array α} {f : α × Nat → Option β}
    (number : β → Nat) (hf : ∀ x i b, f (x, i) = some b → number b = i) :
    (xs.toList.zipIdx.filterMap f).Pairwise fun a b => number a < number b := by
  refine List.Pairwise.filterMap f (fun x y hxy a ha b hb => ?_) (pairwise_zipIdx xs.toList 0)
  rw [hf x.1 x.2 a ha, hf y.1 y.2 b hb]
  exact hxy

/-- What is picked from a numbered longer list is what is picked from the shorter one if the shared
entries are treated alike and the others are left out. -/
theorem filterMap_zipIdx_of_extends {α β : Type} {xs ys : Array α} {f g : α × Nat → Option β}
    (h : Extends xs ys) (hf : ∀ (a : α) (i : Nat), xs[i]? = some a →
      f (a, i) = if i < ys.size then g (a, i) else none) :
    xs.toList.zipIdx.filterMap f = ys.toList.zipIdx.filterMap g := by
  obtain ⟨more, rfl⟩ := h
  have hleft : ys.toList.zipIdx.filterMap f = ys.toList.zipIdx.filterMap g := by
    refine List.filterMap_congr fun p hp => ?_
    have hget := List.mem_zipIdx_iff_getElem?.1 hp
    rw [Array.getElem?_toList] at hget
    have hlt : p.2 < ys.size := (Array.getElem?_eq_some_iff.1 hget).1
    have hp' := hf p.1 p.2 (by rwa [Array.getElem?_append_left hlt])
    rwa [if_pos hlt] at hp'
  have hright : (more.toList.zipIdx ys.size).filterMap f = [] := by
    refine List.filterMap_eq_nil_iff.2 fun p hp => ?_
    obtain ⟨hle, hget⟩ := List.mem_zipIdx_iff_le_and_getElem?_sub.1 hp
    rw [Array.getElem?_toList] at hget
    have hp' := hf p.1 p.2 (by rwa [Array.getElem?_append_right hle])
    rwa [if_neg (Nat.not_lt.2 hle)] at hp'
  rw [Array.toList_append, List.zipIdx_append, List.filterMap_append, hleft, Nat.zero_add,
    Array.length_toList, hright, List.append_nil]

namespace StreetLayer

/-! ## Degrees -/

/-- There is a degree for every vertex and for nothing else. -/
def Aligned (s : StreetLayer) : Prop := s.liveDegree.size = s.vertices.size

theorem aligned_empty : Aligned {} := rfl

/-- No operation on the streets breaks the alignment. -/
theorem stable_aligned : Stable Aligned where
  vertex s c h := by
    show (s.liveDegree.push 0).size = (s.vertices.push c).size
    rw [Array.size_push, Array.size_push, h]
  edge s edge h _ _ _ := by
    show ((s.liveDegree.modify _ _).modify _ _).size = s.vertices.size
    rw [Array.size_modify, Array.size_modify, h]
  removal s e edge h _ := by
    show ((s.liveDegree.modify _ _).modify _ _).size = s.vertices.size
    rw [Array.size_modify, Array.size_modify, h]
  alteration s e edge f h _ _ := h

theorem degree_of_size_le {s : StreetLayer} {v : VertexId} (h : s.liveDegree.size ≤ v) :
    s.degree v = 0 := by
  unfold degree
  rw [Array.getElem?_eq_none h]
  rfl

theorem degree_withVertex (s : StreetLayer) (c : Coordinate) (v : VertexId) :
    (s.withVertex c).degree v = s.degree v := by
  show ((s.liveDegree.push 0)[v]?).getD 0 = (s.liveDegree[v]?).getD 0
  rw [Array.getElem?_push]
  split
  · rename_i h
    rw [h, Array.getElem?_eq_none (Nat.le_refl _)]
    rfl
  · rfl

theorem getD_modify_modify {degrees : Array UInt32} {a b v : Nat} {f : UInt32 → UInt32}
    (ha : a ≠ v) (hb : b ≠ v) : (((degrees.modify a f).modify b f)[v]?).getD 0 = (degrees[v]?).getD 0 := by
  rw [Array.getElem?_modify, if_neg hb, Array.getElem?_modify, if_neg ha]

/-! ## Touched edges -/

/-- Some edge that is noted as touched meets the vertex. -/
def TouchedAt (s : StreetLayer) (v : VertexId) : Prop :=
  ∃ e ∈ s.changes.all, ∃ edge, s.edges[e]? = some edge ∧ (edge.origin = v ∨ edge.target = v)

/-- The end points of the touched edges. -/
def touchedPoints (s : StreetLayer) : List Coordinate :=
  (s.changes.all.toList.filterMap fun e => s.edges[e]?).flatMap s.endPoints

theorem mem_touchedPoints {s : StreetLayer} {v : VertexId} {c : Coordinate} (h : s.TouchedAt v)
    (hv : s.vertices[v]? = some c) : c ∈ s.touchedPoints := by
  obtain ⟨e, he, edge, hedge, hends⟩ := h
  refine List.mem_flatMap.2 ⟨edge, List.mem_filterMap.2 ⟨e, he, hedge⟩, ?_⟩
  rcases hends with rfl | rfl
  · exact List.mem_append_left _ (Option.mem_toList.2 hv)
  · exact List.mem_append_right _ (Option.mem_toList.2 hv)

theorem mem_all {c : EdgeChanges} {e : EdgeId} :
    e ∈ c.all ↔ e ∈ c.added ∨ e ∈ c.removed ∨ e ∈ c.altered := by
  unfold EdgeChanges.all
  rw [IdSet.mem_union, IdSet.mem_union, or_assoc]

/-- A touched edge stays touched while edges keep their courses and none is forgotten. -/
theorem TouchedAt.mono {s s' : StreetLayer} {v : VertexId} (h : s.TouchedAt v)
    (hall : ∀ e ∈ s.changes.all, e ∈ s'.changes.all)
    (hedges : ∀ (e : EdgeId) (edge : StreetEdge), s.edges[e]? = some edge →
      ∃ edge' : StreetEdge, s'.edges[e]? = some edge' ∧ edge'.origin = edge.origin ∧
        edge'.target = edge.target) : s'.TouchedAt v := by
  obtain ⟨e, he, edge, hedge, hends⟩ := h
  obtain ⟨edge', hedge', horigin, htarget⟩ := hedges e edge hedge
  refine ⟨e, hall e he, edge', hedge', ?_⟩
  rwa [horigin, htarget]

/-! ## Layers that continue a layer -/

/-- The layer came from another one by adding vertices and by touching edges that it notes: only
vertices that touched edges meet may have gained their first edge end or lost their last. -/
structure Continues (s₀ s : StreetLayer) : Prop where
  vertices : Extends s.vertices s₀.vertices
  degrees : ∀ v, (0 < s.degree v ↔ 0 < s₀.degree v) ∨ s.TouchedAt v

theorem Continues.forgetChanges (s : StreetLayer) : s.Continues s.forgetChanges :=
  ⟨Extends.refl _, fun _ => .inl Iff.rfl⟩

theorem Continues.refl (s : StreetLayer) : s.Continues s :=
  ⟨Extends.refl _, fun _ => .inl Iff.rfl⟩

theorem getElem?_modify_course {edges : Array StreetEdge} {e i : EdgeId}
    {f : StreetEdge → StreetEdge} {edge : StreetEdge}
    (hf : ∀ x, (f x).origin = x.origin ∧ (f x).target = x.target) (h : edges[i]? = some edge) :
    ∃ edge' : StreetEdge, (edges.modify e f)[i]? = some edge' ∧ edge'.origin = edge.origin ∧
      edge'.target = edge.target := by
  rw [Array.getElem?_modify, h]
  by_cases he : e = i
  · rw [if_pos he]
    exact ⟨f edge, rfl, hf edge⟩
  · rw [if_neg he]
    exact ⟨edge, rfl, rfl, rfl⟩

theorem mem_all_withEdge {s : StreetLayer} {edge : StreetEdge} {i : EdgeId} :
    i ∈ (s.withEdge edge).changes.all ↔ i = s.edges.size ∨ i ∈ s.changes.all := by
  rw [mem_all, mem_all]
  show i ∈ s.changes.added.insert s.edges.size ∨ i ∈ s.changes.removed ∨
    i ∈ s.changes.altered ↔ _
  rw [IdSet.mem_insert, or_assoc]

theorem mem_all_withoutEdge {s : StreetLayer} {e : EdgeId} {edge : StreetEdge} {i : EdgeId} :
    i ∈ (s.withoutEdge e edge).changes.all ↔ i = e ∨ i ∈ s.changes.all := by
  rw [mem_all, mem_all]
  show i ∈ s.changes.added ∨ i ∈ s.changes.removed.insert e ∨ i ∈ s.changes.altered ↔ _
  rw [IdSet.mem_insert, or_assoc, or_left_comm]

theorem mem_all_withAltered {s : StreetLayer} {e : EdgeId} {f : StreetEdge → StreetEdge}
    {i : EdgeId} : i ∈ (s.withAltered e f).changes.all ↔ i = e ∨ i ∈ s.changes.all := by
  rw [mem_all, mem_all]
  show i ∈ s.changes.added ∨ i ∈ s.changes.removed ∨ i ∈ s.changes.altered.insert e ↔ _
  rw [IdSet.mem_insert, or_left_comm (b := i = e), or_left_comm (b := i = e)]

/-- Every operation on the streets continues the layer. -/
theorem stable_continues (s₀ : StreetLayer) : Stable s₀.Continues where
  vertex s c h := by
    refine ⟨h.vertices.push c, fun v => ?_⟩
    rw [degree_withVertex]
    exact (h.degrees v).imp_right fun ht => ht
  edge s edge h _ _ _ := by
    refine ⟨h.vertices, fun v => ?_⟩
    by_cases hends : edge.origin = v ∨ edge.target = v
    · refine .inr ⟨s.edges.size, ?_, edge, ?_, hends⟩
      · exact mem_all_withEdge.2 (.inl rfl)
      · show (s.edges.push edge)[s.edges.size]? = some edge
        rw [Array.getElem?_push_size]
    · rw [not_or] at hends
      have hdegree : (s.withEdge edge).degree v = s.degree v :=
        getD_modify_modify hends.1 hends.2
      rw [hdegree]
      refine (h.degrees v).imp_right fun ht => ht.mono (fun e he => ?_) fun e old hold => ?_
      · exact mem_all_withEdge.2 (.inr he)
      · refine ⟨old, ?_, rfl, rfl⟩
        show (s.edges.push edge)[e]? = some old
        rw [Array.getElem?_push, if_neg (Nat.ne_of_lt (Array.getElem?_eq_some_iff.1 hold).1)]
        exact hold
  removal s e edge h hedge := by
    refine ⟨h.vertices, fun v => ?_⟩
    have hcourse : ∀ (i : EdgeId) (old : StreetEdge), s.edges[i]? = some old →
        ∃ new : StreetEdge, (s.withoutEdge e edge).edges[i]? = some new ∧ new.origin = old.origin ∧
          new.target = old.target :=
      fun i old hold => getElem?_modify_course (fun _ => ⟨rfl, rfl⟩) hold
    by_cases hends : edge.origin = v ∨ edge.target = v
    · obtain ⟨new, hnewEdge, horigin, htarget⟩ := hcourse e edge (getElem?_of_edge? hedge)
      refine .inr ⟨e, mem_all_withoutEdge.2 (.inl rfl), new, hnewEdge, ?_⟩
      rwa [horigin, htarget]
    · rw [not_or] at hends
      have hdegree : (s.withoutEdge e edge).degree v = s.degree v :=
        getD_modify_modify hends.1 hends.2
      rw [hdegree]
      refine (h.degrees v).imp_right fun ht => ht.mono (fun i hi => ?_) hcourse
      exact mem_all_withoutEdge.2 (.inr hi)
  alteration s e edge f h hedge hf := by
    refine ⟨h.vertices, fun v => (h.degrees v).imp_right fun ht => ht.mono (fun i hi => ?_) ?_⟩
    · exact mem_all_withAltered.2 (.inr hi)
    · exact fun i old hold =>
        getElem?_modify_course (fun x => ⟨(hf x).origin, (hf x).target⟩) hold

/-! ## Searches -/

/-- A search around a point finds the same vertices if no touched edge ends within its radius. -/
theorem verticesWithin_eq_of_continues {s₀ s : StreetLayer} (haligned : s₀.Aligned)
    (h : s₀.Continues s) {p : Coordinate} {radius : Float}
    (hfar : ∀ c ∈ s.touchedPoints, ¬c.distance p ≤ radius) :
    s.verticesWithin p radius = s₀.verticesWithin p radius := by
  have hfound : s.vertices.toList.zipIdx.filterMap (fun x =>
      if 0 < s.degree x.2 && x.1.distance p ≤ radius then some (x.2, x.1.distance p) else none) =
      s₀.vertices.toList.zipIdx.filterMap (fun x =>
      if 0 < s₀.degree x.2 && x.1.distance p ≤ radius then some (x.2, x.1.distance p)
      else none) := by
    refine filterMap_zipIdx_of_extends h.vertices fun c v hv => ?_
    simp only
    by_cases hnear : c.distance p ≤ radius
    · have hdegree : 0 < s.degree v ↔ 0 < s₀.degree v := by
        refine (h.degrees v).resolve_right fun ht => ?_
        exact hfar c (mem_touchedPoints ht hv) hnear
      by_cases hold : v < s₀.vertices.size
      · rw [if_pos hold]
        simp only [hdegree]
      · rw [if_neg hold]
        have hzero : s₀.degree v = 0 := by
          refine degree_of_size_le ?_
          rw [haligned]
          exact Nat.not_lt.1 hold
        have hnone : ¬0 < s.degree v := by
          rw [hdegree, hzero]
          exact UInt32.lt_irrefl 0
        simp only [hnone, decide_false, Bool.false_and, Bool.false_eq_true, if_false]
    · simp only [hnear, decide_false, Bool.and_false, Bool.false_eq_true, if_false, ite_self]
  unfold verticesWithin
  simp only
  rw [hfound]

/-- The access of a point stays the same if no touched edge ends within either radius. -/
theorem accessOf_eq_of_continues {s₀ s : StreetLayer} (haligned : s₀.Aligned)
    (h : s₀.Continues s) (params : LinkageParams) {p : Coordinate}
    (hfar : ∀ c ∈ s.touchedPoints,
      ¬(c.distance p ≤ params.linkRadius ∨ c.distance p ≤ params.treeRadius)) :
    accessOf s params p = accessOf s₀ params p := by
  have hlink : s.verticesWithin p params.linkRadius = s₀.verticesWithin p params.linkRadius :=
    verticesWithin_eq_of_continues haligned h fun c hc hnear => hfar c hc (.inl hnear)
  have htree : s.verticesWithin p params.treeRadius = s₀.verticesWithin p params.treeRadius :=
    verticesWithin_eq_of_continues haligned h fun c hc hnear => hfar c hc (.inr hnear)
  unfold accessOf nearestVertex?
  rw [hlink, htree]

end StreetLayer

end Multimodal
