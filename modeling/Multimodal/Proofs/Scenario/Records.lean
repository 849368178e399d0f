import Multimodal.Proofs.Scenario.Descent
import Multimodal.Proofs.Scenario.Separation

/-! # Records keep their numbers

Callers compare a network with its baseline by the numbers of the records, and the linkage refers to
stops and vertices by theirs.  That is sound because every change only adds a record at the end, marks
an edge as removed, or alters an edge in place without moving it.

* `StreetLayer.Retained`, `TransitLayer.Retained`: a later layer holds the records of an earlier one.
* `stable_retained`: no change of a layer loses a record of the earlier one.
* `Network.retains_of_descends`: whatever scenarios are applied, every record keeps its number.
-/

namespace Multimodal

/-! ## Street layers -/

/-- Two states of one edge over time: it runs as before, and once removed it stays removed. -/
structure StreetEdge.Follows (new old : StreetEdge) : Prop where
  origin : new.origin = old.origin
  target : new.target = old.target
  length : new.length = old.length
  removed : old.removed = true → new.removed = true

namespace StreetEdge

variable {a b c : StreetEdge}

theorem Follows.refl (a : StreetEdge) : a.Follows a := ⟨rfl, rfl, rfl, id⟩

theorem Follows.trans (hab : a.Follows b) (hbc : b.Follows c) : a.Follows c where
  origin := hab.origin.trans hbc.origin
  target := hab.target.trans hbc.target
  length := hab.length.trans hbc.length
  removed h := hab.removed (hbc.removed h)

theorem SameCourse.follows (h : a.SameCourse b) : a.Follows b where
  origin := h.origin
  target := h.target
  length := h.length
  removed hb := h.removed.trans hb

end StreetEdge

namespace StreetLayer

structure Retained (s₀ s : StreetLayer) : Prop where
  vertices : Extends s.vertices s₀.vertices
  edges : ∀ (e : EdgeId) (old : StreetEdge), s₀.edges[e]? = some old →
    ∃ new : StreetEdge, s.edges[e]? = some new ∧ new.Follows old

variable {s₀ s : StreetLayer}

theorem Retained.refl (s : StreetLayer) : s.Retained s :=
  ⟨Extends.refl _, fun _ old hold => ⟨old, hold, .refl old⟩⟩

theorem Retained.follows_modify (h : s₀.Retained s) {e i : EdgeId}
    {f : StreetEdge → StreetEdge} (hf : ∀ x, (f x).Follows x) {old : StreetEdge}
    (hold : s₀.edges[i]? = some old) :
    ∃ new : StreetEdge, (s.edges.modify e f)[i]? = some new ∧ new.Follows old := by
  obtain ⟨new, hnew, hfollows⟩ := h.edges i old hold
  rw [Array.getElem?_modify, hnew]
  split
  · exact ⟨f new, rfl, (hf new).trans hfollows⟩
  · exact ⟨new, rfl, hfollows⟩

theorem stable_retained (s₀ : StreetLayer) : Stable s₀.Retained where
  vertex s c h := ⟨h.vertices.push c, h.edges⟩
  edge s edge h _ _ _ := by
    refine ⟨h.vertices, fun e old hold => ?_⟩
    obtain ⟨new, hnew, hfollows⟩ := h.edges e old hold
    refine ⟨new, ?_, hfollows⟩
    show (s.edges.push edge)[e]? = some new
    rw [Array.getElem?_push, if_neg (Nat.ne_of_lt (Array.getElem?_eq_some_iff.1 hnew).1)]
    exact hnew
  removal s e edge h _ := by
    refine ⟨h.vertices, fun i old hold => ?_⟩
    have hf : ∀ x : StreetEdge, { x with removed := true }.Follows x :=
      fun _ => ⟨rfl, rfl, rfl, fun _ => rfl⟩
    exact h.follows_modify hf hold
  alteration s e edge f h _ hf :=
    ⟨h.vertices, fun _ _ hold => h.follows_modify (fun x => (hf x).follows) hold⟩

theorem Retained.vertex? (h : s₀.Retained s) {v : VertexId} {c : Coordinate}
    (hv : s₀.vertex? v = some c) : s.vertex? v = some c :=
  (h.vertices.getElem? (lt_of_vertex? hv)).trans hv

/-- An edge that was removed does not come back. -/
theorem Retained.edge?_eq_none (h : s₀.Retained s) {e : EdgeId} (he : e < s₀.edges.size)
    (hgone : s₀.edge? e = none) : s.edge? e = none := by
  obtain ⟨new, hnew, hfollows⟩ := h.edges e _ (Array.getElem?_eq_getElem he)
  unfold edge? at hgone ⊢
  rw [Array.getElem?_eq_getElem he] at hgone
  have hremoved : s₀.edges[e].removed = true := by simpa using hgone
  rw [hnew]
  simp [hfollows.removed hremoved]

end StreetLayer

/-! ## Transit layers -/

namespace TransitLayer

structure Retained (t₀ t : TransitLayer) : Prop where
  stops : Extends t.stops t₀.stops
  routes : Extends t.routes t₀.routes
  feeds : t.feeds = t₀.feeds

variable {t₀ t : TransitLayer}

theorem Retained.refl (t : TransitLayer) : t.Retained t := ⟨Extends.refl _, Extends.refl _, rfl⟩

theorem stable_retained (t₀ : TransitLayer) : Stable t₀.Retained where
  stop _ stop h := ⟨h.stops.push stop, h.routes, h.feeds⟩
  route _ route h := ⟨h.stops, h.routes.push route, h.feeds⟩
  patterns _ _ _ h := ⟨h.stops, h.routes, h.feeds⟩

end TransitLayer

/-! ## Networks -/

/-- The network holds every record of an earlier one under the same number, and finds stops and routes
under the ids that they had; no removed edge is back, and the feeds are the same. -/
structure Network.Retains (n₀ n : Network) : Prop where
  vertex : ∀ (v : VertexId) (c : Coordinate), n₀.street.content.vertex? v = some c →
    n.street.content.vertex? v = some c
  edge : ∀ (e : EdgeId) (old : StreetEdge), n₀.street.content.edges[e]? = some old →
    ∃ new : StreetEdge, n.street.content.edges[e]? = some new ∧
      new.origin = old.origin ∧ new.target = old.target ∧ new.length = old.length
  removed : ∀ e < n₀.street.content.edges.size, n₀.street.content.edge? e = none →
    n.street.content.edge? e = none
  stop : ∀ (i : StopIndex) (stop : Stop), n₀.transit.content.stops[i]? = some stop →
    n.transit.content.stops[i]? = some stop
  route : ∀ (i : RouteIndex) (route : Route), n₀.transit.content.routes[i]? = some route →
    n.transit.content.routes[i]? = some route
  stopIndex : ∀ (id : String) (i : StopIndex), n₀.transit.content.stopIndex? id = some i →
    n.transit.content.stopIndex? id = some i
  routeIndex : ∀ (id : String) (i : RouteIndex), n₀.transit.content.routeIndex? id = some i →
    n.transit.content.routeIndex? id = some i
  feeds : n.transit.content.feeds = n₀.transit.content.feeds

namespace Network

/-- Both layers hold the records of the earlier ones. -/
def LayersRetained (n₀ n : Network) : Prop :=
  n₀.street.content.Retained n.street.content ∧ n₀.transit.content.Retained n.transit.content

theorem LayersRetained.retains {n₀ n : Network} (h : n₀.LayersRetained n) : n₀.Retains n := by
  obtain ⟨hstreet, htransit⟩ := h
  refine ⟨fun v c hv => hstreet.vertex? hv, fun e old hold => ?_,
    fun e he hgone => hstreet.edge?_eq_none he hgone,
    fun i stop hi => htransit.stops.getElem?_eq_some hi,
    fun i route hi => htransit.routes.getElem?_eq_some hi,
    fun id i hi => htransit.stops.findIdx? hi, fun id i hi => htransit.routes.findIdx? hi,
    htransit.feeds⟩
  obtain ⟨new, hnew, hfollows⟩ := hstreet.edges e old hold
  exact ⟨new, hnew, hfollows.origin, hfollows.target, hfollows.length⟩

/-- One application after another loses no record. -/
theorem layersRetained_rebuilt {first baseline n : Network} {s : Scenario Modification}
    (hbaseline : first.LayersRetained baseline) (h : s.revised baseline = .ok n)
    (policy : RebuildPolicy) : first.LayersRetained (n.rebuilt s.scope policy) := by
  have hcopy : first.street.content.Retained (baseline.scopedCopy s.scope).street.content := by
    unfold scopedCopy
    split
    · exact ⟨hbaseline.1.vertices, hbaseline.1.edges⟩
    · exact hbaseline.1
  have hreached := reached_of_revised (StreetLayer.stable_retained _)
    (TransitLayer.stable_retained _) hcopy hbaseline.2 h
  exact ⟨stable_rebuilt (fun _ hs => ⟨hs.vertices, hs.edges⟩) hreached.streets s.scope policy,
    timetable_rebuilt (fun _ ht => ⟨ht.stops, ht.routes, ht.feeds⟩) hreached.timetable s.scope
      policy⟩

/-- Along any chain of successful applications, under either policy, every record of a network that
the chain passes keeps its number in every later one. -/
theorem retains_of_descends {first n : Network} (h : Descends (fun _ => True) first n) :
    first.Retains n := by
  have hlayers : first.LayersRetained n := by
    refine h.invariant ⟨StreetLayer.Retained.refl _, TransitLayer.Retained.refl _⟩ ?_
    intro s baseline n policy hbaseline hrevised _
    exact layersRetained_rebuilt hbaseline hrevised policy
  exact hlayers.retains

end Network

namespace Sample

/-- The hamlet can have its street closed and then get a new line. -/
theorem apply_after_closure {first : Applied}
    (h : (closure.apply {} hamlet none).result = .ok first) :
    ∃ second, (shuttle.apply {} first.network none).result = .ok second := by
  have hrounds : (closure.revised hamlet).toOption.all (fun n =>
      (shuttle.revised (n.rebuilt closure.scope .scoped)).toOption.isSome) = true := by
    decide +kernel
  obtain ⟨n, hn, hnetwork, -⟩ := Scenario.applied_of_result h
  rw [canonical_closure] at hn hnetwork
  rw [hn] at hrounds
  refine exists_applied rfl canonical_shuttle ?_ {} none
  rw [hnetwork]
  exact hrounds

/-- The closed street stays closed, and all stops keep their numbers when a line with a new stop
comes. -/
theorem retains_closed_hamlet :
    ∃ first second : Applied, (closure.apply {} hamlet none).result = .ok first ∧
      (shuttle.apply {} first.network none).result = .ok second ∧
      hamlet.Retains second.network ∧ first.network.Retains second.network := by
  obtain ⟨first, hfirst⟩ := apply_closure {}
  obtain ⟨second, hsecond⟩ := apply_after_closure hfirst
  have hstart : Network.Descends (fun _ => True) hamlet first.network :=
    Network.Descends.refl.apply trivial hfirst
  exact ⟨first, second, hfirst, hsecond,
    Network.retains_of_descends (hstart.apply trivial hsecond),
    Network.retains_of_descends (Network.Descends.refl.apply trivial hsecond)⟩

end Sample

end Multimodal
