import Multimodal.Proofs.Modification.Outcomes
import Multimodal.Proofs.Modification.Renumbering
import Multimodal.Proofs.Street.Degrees

/-! # What several removals leave

An edge or a trip that several modifications take out is taken out by the first of them, and the others
find it gone.  What is left therefore depends on all that was to be taken out and not on the order.

* `StreetLayer.closed`: the layer without a set of edges, and `closed_insert` for one edge more.
* `StreetLayer.Counted.closed_foldl`: the degrees of what is left.
* `RemoveStreets.apply_closed`: a removal that finds some of its edges gone.
* `TransitLayer.keepTrips`, `TransitLayer.strippedBy`: the layer without some trips.
* `TransitLayer.strippedBy_cons`, `TransitLayer.strippedBy_perm`: several removals of trips.
-/

namespace Multimodal

/-! ## Sets of edges -/

theorem perm_insertAscending {n : Nat} {ms : List Nat} (h : n ∉ ms) :
    (insertAscending n ms).Perm (n :: ms) := by
  induction ms with
  | nil => exact List.Perm.refl [n]
  | cons m ms ih =>
    have hne : n ≠ m := fun hnm => h (hnm ▸ List.mem_cons_self)
    have hms : n ∉ ms := fun hn => h (List.mem_cons_of_mem m hn)
    rw [insertAscending]
    by_cases hlt : n < m
    · rw [if_pos hlt]
    · rw [if_neg hlt, if_neg hne]
      exact ((ih hms).cons m).trans (List.Perm.swap n m ms)

theorem IdSet.insert_of_mem {s : IdSet} {n : Nat} (h : n ∈ s) : s.insert n = s := by
  ext k
  rw [mem_insert, or_iff_right_of_imp]
  rintro rfl
  exact h

theorem IdSet.union_empty (s : IdSet) : s.union empty = s := rfl

theorem IdSet.union_insert (s t : IdSet) (n : Nat) : (s.union t).insert n = s.union (t.insert n) := by
  ext k
  simp only [mem_insert, mem_union]
  exact or_left_comm

theorem IdSet.ofList_perm {ms ns : List Nat} (h : ms.Perm ns) : ofList ms = ofList ns := by
  ext k
  rw [mem_ofList, mem_ofList, h.mem_iff]

theorem edgeEnds_perm {edges edges' : List StreetEdge} (h : edges.Perm edges') (v : VertexId) :
    edgeEnds edges v = edgeEnds edges' v := by
  unfold edgeEnds
  rw [h.countP_eq, h.countP_eq]

/-! ## Streets closed -/

namespace StreetLayer

/-- The edges at some positions. -/
def edgesAt (s : StreetLayer) (es : IdSet) : List StreetEdge := es.toList.filterMap (s.edges[·]?)

/-- The layer with a set of edges marked as removed, which noted exactly that. -/
def closed (s : StreetLayer) (es : IdSet) : StreetLayer :=
  { s with
    edges := s.edges.mapIdx fun e edge => if e ∈ es then { edge with removed := true } else edge
    liveDegree := s.liveDegree.mapIdx fun v degree =>
      degree - UInt32.ofNat (edgeEnds (s.edgesAt es) v)
    edgeListsStale := s.edgeListsStale || !es.isEmpty
    changes := { s.changes with removed := s.changes.removed.union es } }

variable {s : StreetLayer} {es : IdSet} {e : EdgeId} {edge : StreetEdge}

theorem closed_empty (s : StreetLayer) : s.closed .empty = s := by
  have hedges : (s.edges.mapIdx fun e edge =>
      if e ∈ IdSet.empty then { edge with removed := true } else edge) = s.edges := by
    refine Array.ext_getElem? fun i => ?_
    simp
  have hdegree : (s.liveDegree.mapIdx fun v degree =>
      degree - UInt32.ofNat (edgeEnds (s.edgesAt .empty) v)) = s.liveDegree := by
    refine Array.ext_getElem? fun i => ?_
    simp [edgesAt, IdSet.empty, edgeEnds]
  have hstale : (s.edgeListsStale || !IdSet.empty.isEmpty) = s.edgeListsStale :=
    Bool.or_false _
  unfold closed
  rw [hedges, hdegree, hstale, IdSet.union_empty]

theorem edge?_closed (s : StreetLayer) (es : IdSet) (e : EdgeId) :
    (s.closed es).edge? e = if e ∈ es then none else s.edge? e := by
  unfold edge? closed
  simp only [Array.getElem?_mapIdx]
  by_cases he : e ∈ es
  · simp only [if_pos he, Option.filter_map]
    cases s.edges[e]? <;> rfl
  · simp only [if_neg he, Option.map_id']

theorem edgeEnds_insert (hedge : s.edges[e]? = some edge) (he : e ∉ es) (v : VertexId) :
    edgeEnds (s.edgesAt (es.insert e)) v = edgeEnds (s.edgesAt es) v + edgeEnds [edge] v := by
  have hperm : (s.edgesAt (es.insert e)).Perm (edge :: s.edgesAt es) := by
    refine ((perm_insertAscending he).filterMap _).trans ?_
    rw [List.filterMap_cons, hedge]
    exact List.Perm.refl _
  rw [edgeEnds_perm hperm, edgeEnds_cons]

theorem closed_insert (hedge : s.edge? e = some edge) (he : e ∉ es) :
    (s.closed es).withoutEdge e edge = s.closed (es.insert e) := by
  have hget := getElem?_of_edge? hedge
  have hedges : (s.closed es).edges.modify e (fun edge => { edge with removed := true }) =
      (s.closed (es.insert e)).edges := by
    refine Array.ext_getElem? fun i => ?_
    unfold closed
    simp only [Array.getElem?_modify, Array.getElem?_mapIdx, IdSet.mem_insert]
    by_cases hi : e = i
    · subst hi
      simp only [if_true, he, if_false, true_or, Option.map_map]
      rfl
    · simp only [if_neg hi, Ne.symm hi, false_or]
  have hdegree : ((s.closed es).liveDegree.modify edge.origin (· - 1)).modify edge.target (· - 1) =
      (s.closed (es.insert e)).liveDegree := by
    refine Array.ext_getElem? fun v => ?_
    have hsub (degree a b : UInt32) : degree - a - b = degree - (a + b) := by grind
    refine (getElem?_liveDegree_withoutEdge (s.closed es) e edge v).trans ?_
    unfold closed
    simp only [Array.getElem?_mapIdx, Option.map_map, edgeEnds_insert hget he, UInt32.ofNat_add,
      Function.comp_def, hsub]
  have hstale : (s.edgeListsStale || !(es.insert e).isEmpty) = true := by
    have hmem : e ∈ (es.insert e).toList := IdSet.mem_insert.2 (.inl rfl)
    have hsome : (es.insert e).isEmpty = false := by
      unfold IdSet.isEmpty
      exact List.isEmpty_eq_false_iff.2 (List.ne_nil_of_mem hmem)
    rw [hsome]
    exact Bool.or_true _
  unfold withoutEdge
  rw [hedges, hdegree]
  unfold closed
  rw [hstale, IdSet.union_insert]

/-- Degrees that count the edges left go on doing so. -/
theorem Counted.closed_foldl {found : List EdgeId} (h : ∀ e ∈ found, (s.edge? e).isSome)
    (hcounted : (s.closed es).Counted) : (s.closed (found.foldl IdSet.insert es)).Counted := by
  induction found generalizing es with
  | nil => exact hcounted
  | cons e found ih =>
    obtain ⟨hsome, hfound⟩ := List.forall_mem_cons.1 h
    obtain ⟨edge, hedge⟩ := Option.isSome_iff_exists.1 hsome
    refine ih hfound ?_
    by_cases he : e ∈ es
    · rwa [IdSet.insert_of_mem he]
    · rw [← closed_insert hedge he]
      exact stable_counted.removal _ e edge hcounted (by rw [edge?_closed, if_neg he, hedge])

end StreetLayer

namespace RemoveStreets

open StreetLayer

variable {s : StreetLayer}

theorem applyToEdge_closed {e : EdgeId} (h : (s.edge? e).isSome) (es : IdSet) (d : Diagnostics) :
    applyToEdge e ⟨s.closed es, d⟩ = .ok (decide (e ∈ es)) ⟨s.closed (es.insert e), d⟩ := by
  obtain ⟨edge, hedge⟩ := Option.isSome_iff_exists.1 h
  rw [applyToEdge_apply, edge?_closed]
  by_cases he : e ∈ es
  · rw [if_pos he, IdSet.insert_of_mem he, decide_eq_true he]
  · rw [if_neg he, hedge, decide_eq_false he]
    simp only [closed_insert hedge he]

theorem mapM_applyToEdge_closed {found : List EdgeId} (h : ∀ e ∈ found, (s.edge? e).isSome)
    (es : IdSet) (d : Diagnostics) : ∃ gone, found.mapM applyToEdge ⟨s.closed es, d⟩ =
      .ok gone ⟨s.closed (found.foldl IdSet.insert es), d⟩ := by
  induction found generalizing es with
  | nil => exact ⟨[], rfl⟩
  | cons e found ih =>
    obtain ⟨he, hfound⟩ := List.forall_mem_cons.1 h
    obtain ⟨gone, hrest⟩ := ih hfound (es.insert e)
    refine ⟨decide (e ∈ es) :: gone, ?_⟩
    rw [List.mapM_cons, bind_of_ok (applyToEdge_closed he es d), bind_of_ok hrest]
    rfl

/-- A removal of edges that were there once takes out those that are left, with a remark at most. -/
theorem apply_closed (m : RemoveStreets) (h : ∀ e ∈ m.found, (s.edge? e).isSome) (es : IdSet)
    (d : Diagnostics) : ∃ d', m.apply ⟨s.closed es, d⟩ =
      .ok () ⟨s.closed (m.found.foldl IdSet.insert es), d'⟩ ∧ d'.comment = d.comment := by
  obtain ⟨gone, hgone⟩ := mapM_applyToEdge_closed h es d
  unfold apply
  rw [bind_of_ok hgone]
  by_cases halready : 0 < gone.count true
  · simp only [if_pos halready]
    exact ⟨d.warn (.alreadyRemoved (gone.count true)), rfl, rfl⟩
  · simp only [if_neg halready]
    exact ⟨d, rfl, rfl⟩

theorem there_of_found (m : RemoveStreets) (h : (m.resolve s).2 = []) :
    ∀ e ∈ (m.resolve s).1.found, (s.edge? e).isSome := by
  unfold resolve at h ⊢
  by_cases hvalid : m.envelope.isValid = true
  · rw [if_pos hvalid]
    exact fun e he => Change.there_of_intersecting he
  · rw [if_neg hvalid] at h
    cases h

end RemoveStreets

/-! ## Trips taken out -/

/-- The pattern with some of its trips. -/
def Pattern.keepTrips (p : Pattern) (keeps : Trip → Bool) : Pattern :=
  { p with trips := p.trips.filter keeps }

theorem Pattern.keepTrips_keepTrips (p : Pattern) (f g : Trip → Bool) :
    (p.keepTrips f).keepTrips g = p.keepTrips fun trip => f trip && g trip := by
  unfold keepTrips
  simp only [List.filter_filter, Bool.and_comm]

namespace TransitLayer

/-- The layer with the trips that stay, without the patterns that have none. -/
def keepTrips (t : TransitLayer) (keeps : RouteIndex → Trip → Bool) : TransitLayer :=
  { t with
    patterns := t.patterns.map fun p : Pattern => p.keepTrips (keeps p.route) }.retainPatterns
      (!·.trips.isEmpty)

/-- The layer after some removals: nothing happens without one, and else those trips stay that none of
them takes out. -/
def strippedBy (t : TransitLayer) : List RemoveTrips → TransitLayer
  | [] => t
  | m :: ms => t.keepTrips fun route trip => (m :: ms).all (·.keeps route trip)

theorem keepTrips_keepTrips (t : TransitLayer) (f g : RouteIndex → Trip → Bool) :
    (t.keepTrips f).keepTrips g = t.keepTrips fun route trip => f route trip && g route trip := by
  have hpatterns : (((t.patterns.map fun p => p.keepTrips (f p.route)).filter
      (!·.trips.isEmpty)).map fun p => p.keepTrips (g p.route)).filter (!·.trips.isEmpty) =
        (t.patterns.map fun p => p.keepTrips fun trip => f p.route trip && g p.route trip).filter
          (!·.trips.isEmpty) := by
    induction t.patterns with
    | nil => rfl
    | cons p ps ih =>
      have htwice : (p.keepTrips (f p.route)).keepTrips (g (p.keepTrips (f p.route)).route) =
          p.keepTrips fun trip => f p.route trip && g p.route trip :=
        p.keepTrips_keepTrips (f p.route) (g p.route)
      rw [List.map_cons, List.map_cons, List.filter_cons, List.filter_cons, ← htwice, ← ih]
      -- a pattern that has lost its trips does not get any back
      cases hnone : (p.keepTrips (f p.route)).trips with
      | nil =>
        have hstill : ((p.keepTrips (f p.route)).keepTrips
            (g (p.keepTrips (f p.route)).route)).trips = [] := by
          show List.filter _ (p.keepTrips (f p.route)).trips = []
          rw [hnone, List.filter_nil]
        rw [hstill]
        rfl
      | cons trip trips =>
        rw [List.isEmpty_cons, Bool.not_false, if_pos rfl, List.map_cons, List.filter_cons]
  unfold keepTrips retainPatterns
  simp only [hpatterns]

theorem strippedBy_cons (t : TransitLayer) (m : RemoveTrips) (ms : List RemoveTrips) :
    (m.stripLayer t).strippedBy ms = t.strippedBy (m :: ms) := by
  have hfirst : m.stripLayer t = t.keepTrips m.keeps := rfl
  cases ms with
  | nil =>
    rw [hfirst]
    unfold strippedBy
    simp only [List.all_cons, List.all_nil, Bool.and_true]
  | cons m' ms =>
    rw [hfirst]
    exact keepTrips_keepTrips t m.keeps fun route trip => (m' :: ms).all (·.keeps route trip)

theorem strippedBy_perm (t : TransitLayer) {ms ms' : List RemoveTrips} (h : ms.Perm ms') :
    t.strippedBy ms = t.strippedBy ms' := by
  cases ms with
  | nil => rw [List.nil_perm.1 h]
  | cons m ms =>
    cases ms' with
    | nil => exact absurd h.eq_nil (List.cons_ne_nil m ms)
    | cons m' ms' =>
      unfold strippedBy
      refine congrArg t.keepTrips (funext fun route => funext fun trip => ?_)
      exact h.all_eq

end TransitLayer

end Multimodal
