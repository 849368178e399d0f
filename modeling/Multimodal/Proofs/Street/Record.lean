import Multimodal.Proofs.Street.Calls
import Multimodal.Proofs.Street.Changes
import Multimodal.Sample

/-! # The record of touched edges

From the moment a layer is copied it notes which edges are added, removed and altered.  Compared with
the layer as it was then, the record is exact: an edge that it does not name is what it was.

* `StreetLayer.Noted`: what the record says about the layer at the start, kept by every call.
* `StreetLayer.ChangesComplete`: what follows for edges and for vertices.
* `changes_complete`: it holds after any calls.
-/

namespace Multimodal

namespace StreetLayer

variable {s₀ s : StreetLayer} {e : EdgeId} {edge : StreetEdge}

/-- The layer has an edge with this number and it is removed. -/
def Gone (s : StreetLayer) (e : EdgeId) : Prop :=
  ∃ edge, s.edges[e]? = some edge ∧ edge.removed = true

/-- Some edge that is left starts or ends at the vertex. -/
def MetAt (s : StreetLayer) (v : VertexId) : Prop :=
  ∃ e edge, s.edge? e = some edge ∧ (edge.origin = v ∨ edge.target = v)

theorem edge?_of_not_gone (hedge : s.edges[e]? = some edge) (h : ¬s.Gone e) :
    s.edge? e = some edge := by
  have hlive : edge.removed = false := by
    cases hremoved : edge.removed with
    | false => rfl
    | true => exact absurd ⟨edge, hedge, hremoved⟩ h
  simp [edge?, hedge, hlive, Option.filter_some]

theorem not_gone_of_edge? (h : s.edge? e = some edge) : ¬s.Gone e := by
  rintro ⟨other, hother, hremoved⟩
  obtain ⟨hedge, hlive⟩ := Option.filter_eq_some_iff.1 h
  rw [hother] at hedge
  cases hedge
  simp [hremoved] at hlive

/-! ## What every call keeps -/

/-- What the record of a layer says about the layer that it started from. -/
structure Noted (s₀ s : StreetLayer) : Prop where
  size : s₀.edges.size ≤ s.edges.size
  added : ∀ e, e ∈ s.changes.added ↔ s₀.edges.size ≤ e ∧ e < s.edges.size
  removed : ∀ e, e ∈ s.changes.removed ↔ s.Gone e ∧ ¬s₀.Gone e
  untouched : ∀ e, e < s.edges.size → e ∉ s.changes.all → s.edges[e]? = s₀.edges[e]?
  courses : ∀ (e : EdgeId) (old : StreetEdge), s₀.edges[e]? = some old →
    ∃ new : StreetEdge, s.edges[e]? = some new ∧ new.origin = old.origin ∧
      new.target = old.target ∧ (old.removed = true → new.removed = true)

theorem noted_refl (h : s₀.changes = {}) : s₀.Noted s₀ where
  size := Nat.le_refl _
  added e := by
    rw [h]
    exact iff_of_false (IdSet.not_mem_empty e) (by omega)
  removed e := by
    rw [h]
    exact iff_of_false (IdSet.not_mem_empty e) fun hgone => hgone.2 hgone.1
  untouched _ _ _ := rfl
  courses _ old hold := ⟨old, hold, rfl, rfl, id⟩

theorem gone_withEdge (hlive : edge.removed = false) : (s.withEdge edge).Gone e ↔ s.Gone e := by
  have hpush : (s.withEdge edge).edges[e]? =
      if e = s.edges.size then some edge else s.edges[e]? := Array.getElem?_push
  unfold Gone
  rw [hpush]
  split
  · rename_i hsize
    rw [hsize, Array.getElem?_eq_none (Nat.le_refl _)]
    simp [hlive]
  · rfl

theorem gone_withoutEdge (hedge : s.edge? e = some edge) (i : EdgeId) :
    (s.withoutEdge e edge).Gone i ↔ i = e ∨ s.Gone i := by
  have hmodify : (s.withoutEdge e edge).edges[i]? =
      if e = i then s.edges[i]?.map fun x => { x with removed := true } else s.edges[i]? :=
    Array.getElem?_modify ..
  unfold Gone
  rw [hmodify]
  by_cases hi : e = i
  · subst hi
    simp [getElem?_of_edge? hedge]
  · simp [hi, Ne.symm hi]

theorem gone_withAltered {f : StreetEdge → StreetEdge} (hf : ∀ x : StreetEdge, (f x).SameCourse x)
    (i : EdgeId) : (s.withAltered e f).Gone i ↔ s.Gone i := by
  unfold Gone
  rw [getElem?_withAltered]
  split
  · simp [(hf _).removed]
  · rfl

/-- Changing one edge keeps the courses if it keeps those of the changed edge. -/
theorem Noted.courses_modify (h : s₀.Noted s) {f : StreetEdge → StreetEdge}
    (hf : ∀ x, (f x).origin = x.origin ∧ (f x).target = x.target ∧
      (x.removed = true → (f x).removed = true)) {old : StreetEdge} {i : EdgeId}
    (hold : s₀.edges[i]? = some old) :
    ∃ new : StreetEdge, (s.edges.modify e f)[i]? = some new ∧ new.origin = old.origin ∧
      new.target = old.target ∧ (old.removed = true → new.removed = true) := by
  obtain ⟨new, hnew, horigin, htarget, hgone⟩ := h.courses i old hold
  rw [Array.getElem?_modify, hnew]
  split
  · obtain ⟨hforigin, hftarget, hfgone⟩ := hf new
    exact ⟨f new, rfl, hforigin.trans horigin, hftarget.trans htarget, fun h => hfgone (hgone h)⟩
  · exact ⟨new, rfl, horigin, htarget, hgone⟩

theorem stable_noted (s₀ : StreetLayer) : Stable s₀.Noted where
  vertex s c h := ⟨h.size, h.added, h.removed, h.untouched, h.courses⟩
  edge s edge h _ _ hlive := by
    have hsize := h.size
    have hpush : (s.withEdge edge).edges.size = s.edges.size + 1 := Array.size_push _
    refine ⟨by omega, fun e => ?_, fun e => ?_, fun e he hout => ?_, fun e old hold => ?_⟩
    · show e ∈ s.changes.added.insert s.edges.size ↔ _
      rw [IdSet.mem_insert, h.added]
      omega
    · rw [gone_withEdge hlive]
      exact h.removed e
    · rw [mem_all_withEdge, not_or] at hout
      rw [hpush] at he
      have he' : e < s.edges.size := Nat.lt_of_le_of_ne (Nat.le_of_lt_succ he) hout.1
      show (s.edges.push edge)[e]? = _
      rw [Array.getElem?_push_lt he', ← Array.getElem?_eq_getElem he']
      exact h.untouched e he' hout.2
    · obtain ⟨new, hnew, hcourse⟩ := h.courses e old hold
      refine ⟨new, ?_, hcourse⟩
      have he' : e < s.edges.size := (Array.getElem?_eq_some_iff.1 hnew).1
      show (s.edges.push edge)[e]? = _
      rwa [Array.getElem?_push_lt he', ← Array.getElem?_eq_getElem he']
  removal s e edge h hedge := by
    have hsize : (s.withoutEdge e edge).edges.size = s.edges.size := Array.size_modify
    refine ⟨hsize ▸ h.size, fun i => ?_, fun i => ?_, fun i hi hout => ?_, fun i old hold => ?_⟩
    · rw [hsize]
      exact h.added i
    · show i ∈ s.changes.removed.insert e ↔ _
      rw [IdSet.mem_insert, h.removed, gone_withoutEdge hedge]
      have hstart : ¬s₀.Gone e := by
        rintro ⟨old, hold, hremoved⟩
        obtain ⟨new, hnew, -, -, hgone⟩ := h.courses e old hold
        exact not_gone_of_edge? hedge ⟨new, hnew, hgone hremoved⟩
      constructor
      · rintro (rfl | ⟨hgone, hnot⟩)
        · exact ⟨.inl rfl, hstart⟩
        · exact ⟨.inr hgone, hnot⟩
      · rintro ⟨rfl | hgone, hnot⟩
        · exact .inl rfl
        · exact .inr ⟨hgone, hnot⟩
    · rw [mem_all_withoutEdge, not_or] at hout
      rw [hsize] at hi
      show (s.edges.modify e _)[i]? = _
      rw [Array.getElem?_modify, if_neg (Ne.symm hout.1)]
      exact h.untouched i hi hout.2
    · exact h.courses_modify (f := fun x => { x with removed := true })
        (fun _ => ⟨rfl, rfl, fun _ => rfl⟩) hold
  alteration s e edge f h _ hf := by
    have hsize : (s.withAltered e f).edges.size = s.edges.size := Array.size_modify
    refine ⟨hsize ▸ h.size, fun i => ?_, fun i => ?_, fun i hi hout => ?_, fun i old hold => ?_⟩
    · rw [hsize]
      exact h.added i
    · rw [gone_withAltered hf]
      exact h.removed i
    · rw [mem_all_withAltered, not_or] at hout
      rw [hsize] at hi
      show (s.edges.modify e _)[i]? = _
      rw [Array.getElem?_modify, if_neg (Ne.symm hout.1)]
      exact h.untouched i hi hout.2
    · exact h.courses_modify
        (fun x => ⟨(hf x).origin, (hf x).target, fun hgone => (hf x).removed ▸ hgone⟩) hold

/-! ## What the record amounts to -/

/-- The record of the second layer names exactly what changed since the first: the edges that are
new, those that were removed, and at least those that were altered.  A vertex of the first layer gained
its first edge or lost its last only as an end of an edge that is noted as added or removed. -/
structure ChangesComplete (s₀ s₁ : StreetLayer) : Prop where
  added : ∀ e, e ∈ s₁.changes.added ↔ s₀.edges.size ≤ e ∧ e < s₁.edges.size
  removed : ∀ e, e ∈ s₁.changes.removed ↔ s₁.Gone e ∧ ¬s₀.Gone e
  others : ∀ e, e < s₁.edges.size → e ∉ s₁.changes.all →
    (∃ edge, s₁.edge? e = some edge ∧ s₀.edge? e = some edge) ∨ (s₁.Gone e ∧ s₀.Gone e)
  vertices : ∀ v, v < s₀.vertices.size → ¬(s₀.MetAt v ↔ s₁.MetAt v) →
    ∃ e edge, (e ∈ s₁.changes.added ∨ e ∈ s₁.changes.removed) ∧ s₁.edges[e]? = some edge ∧
      (edge.origin = v ∨ edge.target = v)

theorem Noted.of_lost (h : s₀.Noted s) {v : VertexId} (hmet : s₀.MetAt v) (hlost : ¬s.MetAt v) :
    ∃ e edge, e ∈ s.changes.removed ∧ s.edges[e]? = some edge ∧
      (edge.origin = v ∨ edge.target = v) := by
  obtain ⟨e, old, hold, hends⟩ := hmet
  obtain ⟨new, hnew, horigin, htarget, -⟩ := h.courses e old (getElem?_of_edge? hold)
  rw [← horigin, ← htarget] at hends
  have hgone : s.Gone e :=
    by_contra fun hkept => hlost ⟨e, new, edge?_of_not_gone hnew hkept, hends⟩
  exact ⟨e, new, (h.removed e).2 ⟨hgone, not_gone_of_edge? hold⟩, hnew, hends⟩

theorem Noted.of_gained (h : s₀.Noted s) {v : VertexId} (hmet : s.MetAt v) (hnew : ¬s₀.MetAt v) :
    ∃ e edge, e ∈ s.changes.added ∧ s.edges[e]? = some edge ∧
      (edge.origin = v ∨ edge.target = v) := by
  obtain ⟨e, edge, hedge, hends⟩ := hmet
  have hget := getElem?_of_edge? hedge
  refine ⟨e, edge, (h.added e).2 ⟨?_, (Array.getElem?_eq_some_iff.1 hget).1⟩, hget, hends⟩
  by_contra hlt
  -- the edge was there before, with the same ends and not removed
  have hold := Array.getElem?_eq_getElem (Nat.not_le.1 hlt)
  obtain ⟨new, hnow, horigin, htarget, hgone⟩ := h.courses e _ hold
  rw [hget] at hnow
  cases hnow
  rw [horigin, htarget] at hends
  refine hnew ⟨e, _, edge?_of_not_gone hold ?_, hends⟩
  rintro ⟨old, hold', hremoved⟩
  rw [hold] at hold'
  cases hold'
  exact not_gone_of_edge? hedge ⟨edge, hget, hgone hremoved⟩

theorem Noted.changesComplete (h : s₀.Noted s) : s₀.ChangesComplete s where
  added := h.added
  removed := h.removed
  others e he hout := by
    have hsame := h.untouched e he hout
    have hget := Array.getElem?_eq_getElem he
    by_cases hgone : s.Gone e
    · refine .inr ⟨hgone, ?_⟩
      unfold Gone at hgone ⊢
      rwa [← hsame]
    · refine .inl ⟨_, edge?_of_not_gone hget hgone, edge?_of_not_gone (hsame ▸ hget) ?_⟩
      unfold Gone at hgone ⊢
      rwa [← hsame]
  vertices v _ hdiffers := by
    by_cases hmet : s₀.MetAt v
    · obtain ⟨e, edge, he, hedge, hends⟩ := h.of_lost hmet fun hstill => hdiffers (by simp [*])
      exact ⟨e, edge, .inr he, hedge, hends⟩
    · have hgained : s.MetAt v := by_contra fun hno => hdiffers (by simp [*])
      obtain ⟨e, edge, he, hedge, hends⟩ := h.of_gained hgained hmet
      exact ⟨e, edge, .inl he, hedge, hends⟩

/-- However a layer is changed after its record was cleared, the record is complete. -/
theorem changes_complete (s₀ : StreetLayer) (hclear : s₀.changes = {}) (calls : List StreetCall) :
    s₀.ChangesComplete (s₀.after calls) := by
  have hnoted : s₀.Noted (s₀.after calls) := by
    refine (stable_noted s₀).after (fun s h => ?_) calls (noted_refl hclear)
    exact ⟨h.size, h.added, h.removed, h.untouched, h.courses⟩
  exact hnoted.changesComplete

end StreetLayer

namespace Sample

/-- A street of which one direction is removed, as a scoped copy has it. -/
def halfStreet : StreetLayer :=
  (({} : StreetLayer).after [.addVertex (crossing 0 0), .addVertex (crossing 0 1),
    .addStreet 0 1 500 .all, .removeEdge 1]).forgetChanges

/-- An edge is added, altered and removed, another altered and then removed; the removals of an edge
that is gone and of one that never was are refused. -/
def halfStreetCalls : List StreetCall :=
  [.addEdge 1 0 500 .all, .setSpeed 2 900, .removeEdge 2, .setPermissions 0 ⟨1⟩, .removeEdge 0,
    .removeEdge 1, .removeEdge 9, .addVertex (crossing 1 1), .addEdge 1 2 500 .all]

theorem changes_halfStreet :
    halfStreet.changes = {} ∧ halfStreet.ChangesComplete (halfStreet.after halfStreetCalls) ∧
      (halfStreet.after halfStreetCalls).changes =
        ⟨.ofList [2, 3], .ofList [0, 2], .ofList [0, 2]⟩ :=
  ⟨rfl, StreetLayer.changes_complete halfStreet rfl halfStreetCalls, by decide +kernel⟩

end Sample

end Multimodal
