import Multimodal.Proofs.Modification.NewRoutes
import Multimodal.Proofs.Modification.Readiness

/-! # What resolving says about applying

Resolving a modification and applying it are two pieces of work that have to agree.  On the network
that it was resolved against a modification can be applied, with one exception: stops cannot be taken
out if a pattern that calls at one of them would keep fewer than two.

* `RemoveStops.Strands`: a pattern that the removal of stops cannot leave.
* `exists_cut?_iff`, `not_fails_of_checkRevision`: what the steps on the timetable fail at.
* `Change.fails_iff`, `Modification.fails_after_resolve_iff`: all kinds.
-/

namespace Multimodal

/-- The pattern runs for a selected route, or any if none is listed, calls at a removed stop, and
would keep fewer than two stops. -/
structure RemoveStops.Strands (m : RemoveStops) (t : TransitLayer) (p : Pattern) : Prop where
  selected : m.routes = [] ∨ p.route ∈ m.routes.filterMap t.routeIndex?
  calls : ∃ s ∈ p.stops, s ∈ m.stops.filterMap t.stopIndex?
  few : (p.stops.filter (· ∉ m.stops.filterMap t.stopIndex?)).length < 2

instance (m : RemoveStops) (t : TransitLayer) (p : Pattern) : Decidable (m.Strands t p) :=
  decidable_of_iff ((m.routes = [] ∨ p.route ∈ m.routes.filterMap t.routeIndex?) ∧
      (∃ s ∈ p.stops, s ∈ m.stops.filterMap t.stopIndex?) ∧
      (p.stops.filter (· ∉ m.stops.filterMap t.stopIndex?)).length < 2)
    ⟨fun ⟨hselected, hcalls, hfew⟩ => ⟨hselected, hcalls, hfew⟩,
      fun ⟨hselected, hcalls, hfew⟩ => ⟨hselected, hcalls, hfew⟩⟩

/-! ## Steps on the timetable -/

namespace Step

theorem onTransit_fails_iff {α : Type} {step : Step TransitLayer α} {w : Worksite Network}
    (h : w.target.transit.shared = false) :
    Fails (onTransit step) w ↔ Fails step ⟨w.target.transit.content, w.diagnostics⟩ := by
  unfold Fails onTransit
  rw [h]
  simp only [Bool.false_eq_true, if_false]
  cases hx : step ⟨w.target.transit.content, w.diagnostics⟩ with
  | ok a t =>
    refine iff_of_false ?_ ?_
    · rintro ⟨f, w', hfails⟩
      cases hfails
    · rintro ⟨f, t', hfails⟩
      cases hfails
  | error f t => exact iff_of_true ⟨f, _, rfl⟩ ⟨f, t, rfl⟩

theorem not_fails_of_checkRevision {w : Worksite TransitLayer} {routes : List RouteIndex}
    {f : List StopIndex → Trip → Except NetworkError Trip} {step : Step TransitLayer Unit}
    (hstep : Rewrites (revisionOf routes f) w step) (h : w.target.checkRevision routes f = []) :
    ¬Fails step w := by
  rw [hstep.fails_iff]
  rintro ⟨p, hp, hnone⟩
  unfold revisionOf onRoutes at hnone
  unfold TransitLayer.checkRevision at h
  by_cases hroute : p.route ∈ routes
  · rw [if_pos hroute] at hnone
    cases hx : (w.target.patterns.filter (·.route ∈ routes)).mapM (Pattern.revise f) with
    | error e =>
      rw [hx] at h
      cases h
    | ok qs =>
      obtain ⟨q, hq⟩ :=
        Yields.ok_of_mapM hx (List.mem_filter.2 ⟨hp, decide_eq_true hroute⟩)
      simp only [hq] at hnone
      cases hnone
  · rw [if_neg hroute] at hnone
    cases hnone

end Step

/-! ## Stops taken out -/

/-- If every id stands for a record, none is found only if there are no ids. -/
theorem lookUp_eq_nil_iff {find? : String → Option Nat} {unknown : String → Remark}
    {ids : List String} (h : (lookUp find? unknown ids).2 = []) :
    (lookUp find? unknown ids).1 = [] ↔ ids = [] := by
  refine ⟨fun hnone => ?_, fun hnil => by rw [hnil]; rfl⟩
  have hknown := List.filter_eq_nil_iff.1 (List.map_eq_nil_iff.1 h)
  have hunknown := List.filterMap_eq_nil_iff.1 hnone
  refine List.eq_nil_iff_forall_not_mem.2 fun id hid => hknown id hid ?_
  rw [hunknown id hid]
  rfl

namespace RemoveStops

theorem touches_iff (m : RemoveStops) (p : Pattern) :
    m.touches p = true ↔
      (m.foundRoutes = [] ∨ p.route ∈ m.foundRoutes) ∧ ∃ s ∈ p.stops, s ∈ m.foundStops := by
  unfold touches concerns
  rw [Bool.and_eq_true, Bool.or_eq_true, List.isEmpty_iff, decide_eq_true_iff, decide_eq_true_iff,
    m.length_keptPositions, ne_eq, List.length_filter_eq_length_iff]
  simp

theorem cut?_eq_none_iff (m : RemoveStops) {p : Pattern}
    (hp : ∀ trip ∈ p.trips, trip.validate p.stops.length = .ok ()) :
    m.cut? p = none ↔ m.touches p = true ∧ (p.stops.filter (· ∉ m.foundStops)).length < 2 := by
  rw [← m.length_keptPositions]
  unfold cut?
  by_cases htouches : m.touches p = true
  · rw [if_pos htouches]
    by_cases hfew : (m.keptPositions p).length < 2
    · rw [if_pos hfew]
      exact iff_of_true rfl ⟨htouches, hfew⟩
    · obtain ⟨trips, hskipped, -⟩ := Step.skipTrips_eq_ok hp hfew
      rw [if_neg hfew, hskipped]
      exact iff_of_false (fun hnone => by cases hnone) fun h => hfew h.2
  · rw [if_neg htouches]
    exact iff_of_false (Option.some_ne_none _) fun h => htouches h.1

theorem exists_cut?_iff (m : RemoveStops) {t : TransitLayer} (ht : t.WellFormed)
    (h : (m.resolve t).2 = []) :
    (∃ p ∈ t.patterns, (m.resolve t).1.cut? p = none) ↔ ∃ p ∈ t.patterns, m.Strands t p := by
  have hroutes : (t.lookUpRoutes m.routes).1 = [] ↔ m.routes = [] :=
    lookUp_eq_nil_iff (List.append_eq_nil_iff.1 (List.append_eq_nil_iff.1 h).1).2
  refine exists_congr fun p => and_congr_right fun hp => ?_
  rw [cut?_eq_none_iff _ (ht.patterns p hp).trips, touches_iff]
  show ((((t.lookUpRoutes m.routes).1 = [] ∨ _) ∧ _) ∧ _) ↔ _
  rw [hroutes]
  exact ⟨fun ⟨⟨hselected, hcalls⟩, hfew⟩ => ⟨hselected, hcalls, hfew⟩,
    fun ⟨hselected, hcalls, hfew⟩ => ⟨⟨hselected, hcalls⟩, hfew⟩⟩

end RemoveStops

/-! ## All kinds -/

/-- If nothing is wrong then nothing was, and what was tried out found nothing wrong either. -/
theorem eq_nil_of_tried {problems tried : List Remark}
    (h : (if problems.isEmpty then tried else problems) = []) : problems = [] ∧ tried = [] := by
  by_cases hnone : problems.isEmpty = true
  · rw [if_pos hnone] at h
    exact ⟨List.isEmpty_iff.1 hnone, h⟩
  · rw [if_neg hnone] at h
    exact absurd (List.isEmpty_iff.2 h) hnone

variable {n : Network}

/-- A change that was resolved fails on the same network only if it strands a pattern. -/
theorem Change.fails_iff (c : Change) (d : Diagnostics) (ht : n.transit.content.WellFormed)
    (hstreet : c.scope.street = true → n.street.shared = false)
    (htransit : c.scope.transit = true → n.transit.shared = false) (h : (c.resolve n).2 = []) :
    Fails (c.resolve n).1.apply ⟨n, d⟩ ↔
      ∃ r, c = .removeStops r ∧ ∃ p ∈ n.transit.content.patterns, r.Strands n.transit.content p := by
  -- the other kinds strand nothing
  have hother : ¬Fails (c.resolve n).1.apply ⟨n, d⟩ → (∀ r, c ≠ .removeStops r) →
      (Fails (c.resolve n).1.apply ⟨n, d⟩ ↔ ∃ r, c = .removeStops r ∧
        ∃ p ∈ n.transit.content.patterns, r.Strands n.transit.content p) :=
    fun hpasses hkind => iff_of_false hpasses fun ⟨r, hr, _⟩ => hkind r hr
  have htimetable : c.scope.transit = true → ∀ {step : Step TransitLayer Unit},
      ¬Fails step ⟨n.transit.content, d⟩ → ¬Fails (Step.onTransit step) ⟨n, d⟩ :=
    fun hc _ hpasses hfails => hpasses ((Step.onTransit_fails_iff (htransit hc)).1 hfails)
  have hstreets : c.isStreet = true → ¬Fails (c.resolve n).1.apply ⟨n, d⟩ := by
    rintro hc ⟨f, w, hfails⟩
    have hready : n.ReadyFor n.street.content ((c.resolve n).1.sortOrder ≤ 10) :=
      ⟨hstreet (by rw [c.scope_eq]; exact hc), StreetLayer.Offers.refl _ _⟩
    obtain ⟨hearly, hlate⟩ := ((c.resolve n).1.ensures_ready (c.foundIn_resolve n h) id).error
      (s := ⟨n, d⟩) hready hfails ((c.isStreet_resolve n).trans hc)
    exact hlate hearly
  cases c with
  | modifyStreets m | removeStreets m | addStreets m =>
    exact hother (hstreets rfl) fun r hr => by cases hr
  | removeTrips m =>
    refine hother (htimetable rfl ?_) fun r hr => by cases hr
    exact not_fails_of_ok (Step.removeTrips_apply _ _)
  | adjustSpeed m =>
    refine hother (htimetable rfl ?_) fun r hr => by cases hr
    exact Step.not_fails_of_checkRevision (Step.rewrites_adjustSpeed _ _) (eq_nil_of_tried h).2
  | adjustDwellTime m =>
    refine hother (htimetable rfl ?_) fun r hr => by cases hr
    exact Step.not_fails_of_checkRevision (Step.rewrites_adjustDwellTime _ _) (eq_nil_of_tried h).2
  | addTrips m =>
    refine hother (htimetable rfl ?_) fun r hr => by cases hr
    rintro ⟨f, w, hfails⟩
    have hoffered := AddTrips.ensures_addTrips (AddTrips.problems_eq_nil h).2.1
      ⟨n.transit.content, d⟩
    exact (hoffered.error rfl hfails).1 h
  | removeStops m =>
    show Fails (Step.onTransit (m.resolve n.transit.content).1.apply) ⟨n, d⟩ ↔ _
    have hrewrites : Step.Rewrites _ ⟨n.transit.content, d⟩ _ :=
      Step.rewrites_removeStops (m.resolve n.transit.content).1 ht
    rw [Step.onTransit_fails_iff (htransit rfl), hrewrites.fails_iff, m.exists_cut?_iff ht h]
    refine ⟨fun hstranded => ⟨m, rfl, hstranded⟩, ?_⟩
    rintro ⟨r, hr, hstranded⟩
    cases hr
    exact hstranded

theorem Modification.apply_fails_iff (m : Modification) (n : Network) :
    (∃ failure, (m.apply n).2.2 = .error failure) ↔ Fails m.change.apply ⟨n, m.diagnostics⟩ := by
  unfold apply
  cases hx : m.change.apply ⟨n, m.diagnostics⟩ with
  | ok u w =>
    refine iff_of_false ?_ (not_fails_of_ok hx)
    rintro ⟨failure, hfails⟩
    cases hfails
  | error f w => exact iff_of_true ⟨f, rfl⟩ ⟨f, w, hx⟩

/-- A modification that was resolved can be applied to the same network, unless it takes out stops and
a pattern that calls at one of them would keep fewer than two. -/
theorem Modification.fails_after_resolve_iff (m : Modification) (n : Network)
    (ht : n.transit.content.WellFormed)
    (hstreet : m.change.scope.street = true → n.street.shared = false)
    (htransit : m.change.scope.transit = true → n.transit.shared = false)
    (hresolve : (m.resolve n).2 = .ok ()) :
    (∃ failure, ((m.resolve n).1.apply n).2.2 = .error failure) ↔
      ∃ r, m.change = .removeStops r ∧
        ∃ p ∈ n.transit.content.patterns, r.Strands n.transit.content p := by
  rw [apply_fails_iff]
  exact m.change.fails_iff _ ht hstreet htransit (m.problems_eq_nil hresolve)

namespace Sample

/-- Takes some stops out of all patterns of the town. -/
def without (stops : List String) : Modification := ⟨.removeStops { stops }, {}⟩

/-- A new line in the town, with a new stop that it calls at twice. -/
def roundTrip : Modification :=
  ⟨.addTrips
    { routeId := "r3"
      mode := .bus
      stops := [{ id := "z", latitude := some 45.001, longitude := some 7.001 }, { id := "a" },
        { id := "z" }]
      hops := [200, 200]
      dwells := [0, 30, 0]
      departures := [25200] }, {}⟩

/-- Both resolve; the tram line, which runs from `x` over `c` to `y`, would keep a single stop. -/
theorem fails_after_resolve_town :
    (((without ["x", "c"]).resolve town).2 = .ok () ∧
      ∃ failure, (((without ["x", "c"]).resolve town).1.apply town).2.2 = .error failure) ∧
    ((roundTrip.resolve town).2 = .ok () ∧
      ¬∃ failure, ((roundTrip.resolve town).1.apply town).2.2 = .error failure) := by
  have hstreet : town.street.shared = false := rfl
  have htransit : town.transit.shared = false := rfl
  have hwithout : ((without ["x", "c"]).resolve town).2 = .ok () := by decide +kernel
  have hroundTrip : (roundTrip.resolve town).2 = .ok () := by decide +kernel
  refine ⟨⟨hwithout, ?_⟩, hroundTrip, ?_⟩
  · rw [Modification.fails_after_resolve_iff _ town wellFormed_town (fun _ => hstreet)
      (fun _ => htransit) hwithout]
    exact ⟨_, rfl, by decide +kernel⟩
  · rw [Modification.fails_after_resolve_iff _ town wellFormed_town (fun _ => hstreet)
      (fun _ => htransit) hroundTrip]
    rintro ⟨r, hr, -⟩
    cases hr

end Sample

end Multimodal
