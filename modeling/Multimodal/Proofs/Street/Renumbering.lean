import Multimodal.Proofs.Alike
import Multimodal.Proofs.Street.Degrees

/-! # Streets under other edge numbers

Removed edges keep their numbers, so two layers that look alike can number their edges differently.  A
layer is compared here with one that lacks some of its removed edges: the numbers of the other edges are
changed and their order is kept.  Whatever is looked up or done under the new numbers is what is looked
up or done under the old ones.

* `StreetLayer.Renumbers`: the layer without some removed edges, under the numbers of the other one.
* `StreetLayer.Tracks`: the touched edges correspond as well.
* `Tracks.addStreet`, `Tracks.alterEdge`: the operations do alike.
* `StreetLayer.compacted`: the layer with no removed edge at all.
-/

namespace Multimodal

namespace StreetLayer

variable {f : EdgeId → EdgeId} {s t : StreetLayer} {e k : EdgeId} {edge : StreetEdge}

/-! ## Live edges -/

theorem mem_liveEdges : (e, edge) ∈ s.liveEdges ↔ s.edge? e = some edge := by
  unfold liveEdges edge?
  rw [Option.filter_eq_some_iff]
  simp only [mem_filterMap_zipIdx, Option.ite_none_left_eq_some, Option.some.injEq, Prod.mk.injEq]
  constructor
  · rintro ⟨e, edge, hedge, hlive, rfl, rfl⟩
    exact ⟨hedge, by simpa using hlive⟩
  · rintro ⟨hedge, hlive⟩
    exact ⟨e, edge, hedge, by simpa using hlive, rfl, rfl⟩

theorem pairwise_liveEdges (s : StreetLayer) : s.liveEdges.Pairwise fun a b => a.1 < b.1 := by
  refine pairwise_filterMap_zipIdx Prod.fst fun edge e x hx => ?_
  simp only [Option.ite_none_left_eq_some, Option.some.injEq] at hx
  exact congrArg Prod.fst hx.2.symm

/-- Lists of numbered things in ascending order with the same members are equal. -/
theorem eq_of_ascending_keys {α : Type} {xs ys : List (Nat × α)}
    (hx : xs.Pairwise fun a b => a.1 < b.1) (hy : ys.Pairwise fun a b => a.1 < b.1)
    (h : ∀ x, x ∈ xs ↔ x ∈ ys) : xs = ys := by
  have hirrefl : Std.Irrefl fun a b : Nat × α => a.1 < b.1 := ⟨fun a => Nat.lt_irrefl a.1⟩
  have hantisymm : Std.Antisymm fun a b : Nat × α => a.1 < b.1 :=
    ⟨fun a b hab hba => absurd hab (Nat.lt_asymm hba)⟩
  exact List.Pairwise.eq_of_mem_iff hx hy h

/-! ## Searches -/

/-- A search looks at the vertices and their degrees only. -/
theorem nearestVertex?_congr (hvertices : s.vertices = t.vertices)
    (hdegrees : s.liveDegree = t.liveDegree) (p : Coordinate) (radius : Float) :
    s.nearestVertex? p radius = t.nearestVertex? p radius := by
  unfold nearestVertex? verticesWithin degree
  rw [hvertices, hdegrees]

theorem accessOf_congr (hvertices : s.vertices = t.vertices)
    (hdegrees : s.liveDegree = t.liveDegree) (params : LinkageParams) (p : Coordinate) :
    accessOf s params p = accessOf t params p := by
  unfold accessOf nearestVertex? verticesWithin degree
  rw [hvertices, hdegrees]

/-! ## Other numbers -/

/-- The second layer is the first without some of its removed edges: `f` answers the number that an
edge has in the first, and goes on counting where the edges end. -/
structure Renumbers (f : EdgeId → EdgeId) (s t : StreetLayer) : Prop where
  vertices : s.vertices = t.vertices
  degrees : s.liveDegree = t.liveDegree
  ascends : StrictMono f
  size : f t.edges.size = s.edges.size
  onward : ∀ k, t.edges.size ≤ k → f (k + 1) = f k + 1
  edges : ∀ k, s.edges[f k]? = t.edges[k]?
  removed : ∀ e edge, s.edges[e]? = some edge → (∀ k, f k ≠ e) → edge.removed = true

namespace Renumbers

theorem edge?_eq (h : s.Renumbers f t) (k : EdgeId) : s.edge? (f k) = t.edge? k := by
  unfold edge?
  rw [h.edges]

theorem vertex?_eq (h : s.Renumbers f t) (v : VertexId) : s.vertex? v = t.vertex? v := by
  unfold vertex?
  rw [h.vertices]

theorem exists_number (h : s.Renumbers f t) (he : s.edge? e = some edge) : ∃ k, f k = e := by
  by_contra hnone
  obtain ⟨hedge, hlive⟩ := Option.filter_eq_some_iff.1 he
  have hremoved := h.removed e edge hedge fun k hk => hnone ⟨k, hk⟩
  simp [hremoved] at hlive

theorem liveEdges_eq (h : s.Renumbers f t) :
    s.liveEdges = t.liveEdges.map fun x => (f x.1, x.2) := by
  refine eq_of_ascending_keys s.pairwise_liveEdges ?_ ?_
  · exact List.pairwise_map.2 (t.pairwise_liveEdges.imp fun hab => h.ascends hab)
  · rintro ⟨e, edge⟩
    simp only [mem_liveEdges, List.mem_map, Prod.exists, Prod.mk.injEq]
    constructor
    · intro he
      obtain ⟨k, rfl⟩ := h.exists_number he
      exact ⟨k, edge, (h.edge?_eq k).symm.trans he, rfl, rfl⟩
    · rintro ⟨k, edge, hk, rfl, rfl⟩
      rwa [h.edge?_eq]

theorem keptEdges_eq (h : s.Renumbers f t) : s.keptEdges = t.keptEdges := by
  rw [← liveEdges_eq_keptEdges, ← liveEdges_eq_keptEdges, h.liveEdges_eq, List.map_map]
  rfl

theorem endPoints_eq (h : s.Renumbers f t) (edge : StreetEdge) :
    s.endPoints edge = t.endPoints edge := by
  unfold endPoints
  rw [h.vertex?_eq, h.vertex?_eq]

theorem edgesIntersecting_eq (h : s.Renumbers f t) (area : Envelope) :
    s.edgesIntersecting area = (t.edgesIntersecting area).map f := by
  unfold edgesIntersecting
  rw [h.liveEdges_eq, List.filterMap_map, List.map_filterMap]
  refine List.filterMap_congr fun x _ => ?_
  simp only [Function.comp_apply, h.endPoints_eq]
  split <;> rfl

theorem nearestVertex?_eq (h : s.Renumbers f t) (p : Coordinate) (radius : Float) :
    s.nearestVertex? p radius = t.nearestVertex? p radius :=
  nearestVertex?_congr h.vertices h.degrees p radius

theorem accessOf_eq (h : s.Renumbers f t) (params : LinkageParams) (p : Coordinate) :
    accessOf s params p = accessOf t params p :=
  accessOf_congr h.vertices h.degrees params p

/-! ## Changed layers -/

theorem withVertex (h : s.Renumbers f t) (c : Coordinate) :
    (s.withVertex c).Renumbers f (t.withVertex c) where
  vertices := congrArg (·.push c) h.vertices
  degrees := congrArg (·.push 0) h.degrees
  ascends := h.ascends
  size := h.size
  onward := h.onward
  edges := h.edges
  removed := h.removed

theorem withEdge (h : s.Renumbers f t) (edge : StreetEdge) :
    (s.withEdge edge).Renumbers f (t.withEdge edge) where
  vertices := h.vertices
  degrees := by
    unfold StreetLayer.withEdge
    simp only [h.degrees]
  ascends := h.ascends
  size := by
    show f (t.edges.push edge).size = (s.edges.push edge).size
    rw [Array.size_push, Array.size_push, h.onward _ (Nat.le_refl _), h.size]
  onward k hk := by
    have hsize : (t.edges.push edge).size ≤ k := hk
    rw [Array.size_push] at hsize
    exact h.onward k (Nat.le_of_succ_le hsize)
  edges k := by
    show (s.edges.push edge)[f k]? = (t.edges.push edge)[k]?
    rw [Array.getElem?_push, Array.getElem?_push, ← h.size, h.edges]
    simp only [h.ascends.injective.eq_iff]
  removed e old hold hnone := by
    have hold' : (s.edges.push edge)[e]? = some old := hold
    rw [Array.getElem?_push, ← h.size, if_neg fun he => hnone _ he.symm] at hold'
    exact h.removed e old hold' hnone

/-- One edge is changed under both of its numbers. -/
theorem modify (h : s.Renumbers f t) (k : EdgeId) (g : StreetEdge → StreetEdge) {s' t' : StreetLayer}
    (hs : s'.edges = s.edges.modify (f k) g) (ht : t'.edges = t.edges.modify k g)
    (hvertices : s'.vertices = t'.vertices) (hdegrees : s'.liveDegree = t'.liveDegree) :
    s'.Renumbers f t' where
  vertices := hvertices
  degrees := hdegrees
  ascends := h.ascends
  size := by
    rw [hs, ht, Array.size_modify, Array.size_modify]
    exact h.size
  onward j hj := by
    rw [ht, Array.size_modify] at hj
    exact h.onward j hj
  edges j := by
    rw [hs, ht, Array.getElem?_modify, Array.getElem?_modify, h.edges]
    simp only [h.ascends.injective.eq_iff]
  removed e old hold hnone := by
    rw [hs, Array.getElem?_modify, if_neg (hnone k)] at hold
    exact h.removed e old hold hnone

theorem withoutEdge (h : s.Renumbers f t) (k : EdgeId) (edge : StreetEdge) :
    (s.withoutEdge (f k) edge).Renumbers f (t.withoutEdge k edge) := by
  refine h.modify k (fun edge => { edge with removed := true }) rfl rfl h.vertices ?_
  unfold StreetLayer.withoutEdge
  simp only [h.degrees]

theorem withAltered (h : s.Renumbers f t) (k : EdgeId) (g : StreetEdge → StreetEdge) :
    (s.withAltered (f k) g).Renumbers f (t.withAltered k g) :=
  h.modify k g rfl rfl h.vertices h.degrees

end Renumbers

/-! ## Touched edges -/

/-- The layers number their edges differently and note the same ones as touched; of the second layer
the edges `needed` are still there. -/
structure Tracks (f : EdgeId → EdgeId) (needed : List EdgeId) (s t : StreetLayer) : Prop
    extends Renumbers f s t where
  touched : ∀ e, e ∈ s.changes.all ↔ ∃ k ∈ t.changes.all, f k = e
  there : ∀ k ∈ needed, (t.edge? k).isSome

namespace Tracks

variable {needed : List EdgeId}

theorem mono (h : s.Tracks f needed t) {fewer : List EdgeId} (hsub : fewer ⊆ needed) :
    s.Tracks f fewer t :=
  { h with there := fun k hk => h.there k (hsub hk) }

theorem forgetChanges (h : s.Renumbers f t) : s.forgetChanges.Tracks f [] t.forgetChanges where
  toRenumbers := ⟨h.vertices, h.degrees, h.ascends, h.size, h.onward, h.edges, h.removed⟩
  touched e := by
    have hnone : ∀ k, k ∉ EdgeChanges.all {} := fun k => by
      simp [mem_all, EmptyCollection.emptyCollection]
    exact ⟨fun he => absurd he (hnone e), fun ⟨k, hk, _⟩ => absurd hk (hnone k)⟩
  there := List.forall_mem_nil _

theorem changedRegion?_eq (h : s.Tracks f needed t) (metres : Float) :
    s.changedRegion? metres = t.changedRegion? metres := by
  have hall : s.changes.all.toList = t.changes.all.toList.map f := by
    refine IdSet.eq_of_ascending s.changes.all.ascending ?_ fun e => ?_
    · exact List.pairwise_map.2 (t.changes.all.ascending.imp fun hab => h.ascends hab)
    · rw [List.mem_map]
      exact h.touched e
  have hends : s.endPoints = t.endPoints := funext h.endPoints_eq
  unfold changedRegion?
  rw [hall, List.filterMap_map, hends]
  simp only [Function.comp_def, h.edges]

theorem withVertex (h : s.Tracks f [] t) (c : Coordinate) :
    (s.withVertex c).Tracks f [] (t.withVertex c) :=
  ⟨h.toRenumbers.withVertex c, h.touched, List.forall_mem_nil _⟩

theorem withEdge (h : s.Tracks f [] t) (edge : StreetEdge) :
    (s.withEdge edge).Tracks f [] (t.withEdge edge) where
  toRenumbers := h.toRenumbers.withEdge edge
  touched e := by
    -- the new edge gets the number after the last one on both sides
    simp only [mem_all_withEdge, h.touched, ← h.size]
    grind
  there := List.forall_mem_nil _

theorem withoutEdge (h : s.Tracks f [] t) (k : EdgeId) (edge : StreetEdge) :
    (s.withoutEdge (f k) edge).Tracks f [] (t.withoutEdge k edge) where
  toRenumbers := h.toRenumbers.withoutEdge k edge
  touched e := by
    simp only [mem_all_withoutEdge, h.touched]
    grind
  there := List.forall_mem_nil _

theorem withAltered (h : s.Tracks f needed t) (k : EdgeId) {g : StreetEdge → StreetEdge}
    (hg : ∀ x : StreetEdge, (g x).SameCourse x) :
    (s.withAltered (f k) g).Tracks f needed (t.withAltered k g) where
  toRenumbers := h.toRenumbers.withAltered k g
  touched e := by
    simp only [mem_all_withAltered, h.touched]
    grind
  there j hj := by
    obtain ⟨edge, hedge⟩ := Option.isSome_iff_exists.1 (h.there j hj)
    obtain ⟨hget, hlive⟩ := Option.filter_eq_some_iff.1 hedge
    show (((t.edges.modify k g)[j]?).filter (!·.removed)).isSome
    rw [Array.getElem?_modify, hget]
    split
    · simpa [Option.filter, (hg edge).removed] using hlive
    · simpa [Option.filter] using hlive

/-! ## Operations -/

theorem addVertex (c : Coordinate) : Alike (Tracks f []) Eq (addVertex c) (addVertex c) :=
  fun _ _ h => ⟨congrArg Array.size h.vertices, h.withVertex c⟩

theorem addEdge (origin target : VertexId) (speed : UInt16) (permissions : Permissions) :
    Alike (Tracks f []) (fun e k => f k = e) (addEdge origin target speed permissions)
      (addEdge origin target speed permissions) := by
  intro s t h
  rw [addEdge_apply, addEdge_apply, h.vertex?_eq, h.vertex?_eq]
  cases t.vertex? origin with
  | none => exact ⟨rfl, h⟩
  | some a =>
    cases t.vertex? target with
    | none => exact ⟨rfl, h⟩
    | some b => exact ⟨h.size, h.withEdge _⟩

theorem addStreet (a b : VertexId) (speed : UInt16) (permissions : Permissions) :
    Alike (Tracks f []) (fun es ks => f ks.1 = es.1 ∧ f ks.2 = es.2)
      (addStreet a b speed permissions) (addStreet a b speed permissions) := by
  refine Alike.bind (addEdge a b speed permissions) fun e k hthere => ?_
  exact Alike.bind (addEdge b a speed permissions) fun e' k' hback => Alike.pure ⟨hthere, hback⟩

theorem alterEdge (hk : k ∈ needed) {g : StreetEdge → StreetEdge}
    (hg : ∀ x : StreetEdge, (g x).SameCourse x) :
    Alike (Tracks f needed) Eq (alterEdge (f k) g) (alterEdge k g) := by
  intro s t h
  -- an edge that is gone would be refused under its number, which differs
  obtain ⟨edge, hedge⟩ := Option.isSome_iff_exists.1 (h.there k hk)
  rw [alterEdge_apply, alterEdge_apply, h.edge?_eq, hedge]
  exact ⟨rfl, h.withAltered k hg⟩

theorem withEdgeLists (h : s.Tracks f needed t) :
    s.withEdgeLists.Tracks f needed t.withEdgeLists where
  toRenumbers := ⟨h.vertices, h.degrees, h.ascends, h.size, h.onward, h.edges, h.removed⟩
  touched := h.touched
  there := h.there

end Tracks

/-! ## No removed edge -/

/-- The layer with no removed edge and nothing noted, its edges numbered in a row. -/
def compacted (s : StreetLayer) : StreetLayer where
  vertices := s.vertices
  edges := s.keptEdges.toArray
  liveDegree := s.liveDegree

/-- The number in the layer of an edge of the compacted layer. -/
def liveNumber (s : StreetLayer) (k : EdgeId) : EdgeId :=
  match s.liveEdges[k]? with
  | some (e, _) => e
  | none => s.edges.size + (k - s.liveEdges.length)

theorem size_compacted (s : StreetLayer) : s.compacted.edges.size = s.liveEdges.length := by
  simp [compacted, ← liveEdges_eq_keptEdges]

theorem liveNumber_of_mem (h : s.liveEdges[k]? = some (e, edge)) : s.liveNumber k = e := by
  unfold liveNumber
  rw [h]

theorem liveNumber_of_length_le (h : s.liveEdges.length ≤ k) :
    s.liveNumber k = s.edges.size + (k - s.liveEdges.length) := by
  unfold liveNumber
  rw [List.getElem?_eq_none h]

theorem lt_size_of_mem (h : (e, edge) ∈ s.liveEdges) : e < s.edges.size :=
  (Array.getElem?_eq_some_iff.1 (getElem?_of_edge? (mem_liveEdges.1 h))).1

theorem strictMono_liveNumber (s : StreetLayer) : StrictMono s.liveNumber := by
  refine strictMono_nat_of_lt_succ fun k => ?_
  rcases Nat.lt_or_ge (k + 1) s.liveEdges.length with hk | hk
  · have hthis := List.getElem?_eq_getElem (Nat.lt_of_succ_lt hk)
    have hnext := List.getElem?_eq_getElem hk
    rw [liveNumber_of_mem hthis, liveNumber_of_mem hnext]
    exact List.pairwise_iff_getElem.1 s.pairwise_liveEdges k (k + 1) _ _ (Nat.lt_succ_self k)
  · rw [liveNumber_of_length_le hk]
    rcases Nat.lt_or_ge k s.liveEdges.length with hlast | hend
    · rw [liveNumber_of_mem (List.getElem?_eq_getElem hlast)]
      exact Nat.lt_add_right _ (lt_size_of_mem (List.getElem_mem hlast))
    · rw [liveNumber_of_length_le hend]
      exact Nat.add_lt_add_left (Nat.sub_lt_sub_right hend (Nat.lt_succ_self k)) _

/-- Leaving out the removed edges renumbers the layer. -/
theorem renumbers_compacted (s : StreetLayer) : s.Renumbers s.liveNumber s.compacted where
  vertices := rfl
  degrees := rfl
  ascends := s.strictMono_liveNumber
  size := by
    rw [size_compacted, liveNumber_of_length_le (Nat.le_refl _), Nat.sub_self, Nat.add_zero]
  onward k hk := by
    rw [size_compacted] at hk
    rw [liveNumber_of_length_le hk, liveNumber_of_length_le (Nat.le_succ_of_le hk),
      Nat.succ_sub hk, Nat.add_succ]
  edges k := by
    have hkept : s.compacted.edges[k]? = (s.liveEdges[k]?).map (·.2) := by
      simp [compacted, ← liveEdges_eq_keptEdges]
    rw [hkept]
    rcases Nat.lt_or_ge k s.liveEdges.length with hk | hk
    · rw [liveNumber_of_mem (List.getElem?_eq_getElem hk), List.getElem?_eq_getElem hk]
      exact getElem?_of_edge? (mem_liveEdges.1 (List.getElem_mem hk))
    · rw [liveNumber_of_length_le hk, List.getElem?_eq_none hk]
      exact Array.getElem?_eq_none (Nat.le_add_right _ _)
  removed e edge hedge hnone := by
    rw [← Bool.not_eq_false]
    intro hlive
    have hmem : (e, edge) ∈ s.liveEdges := by
      rw [mem_liveEdges]
      exact Option.filter_eq_some_iff.2 ⟨hedge, by simp [hlive]⟩
    obtain ⟨k, hk⟩ := List.getElem?_of_mem hmem
    exact hnone k (liveNumber_of_mem hk)

end StreetLayer

end Multimodal
