import Multimodal.Proofs.Modification.Prediction

/-! # Trips taken out and trips added

Taking trips out leaves the patterns in their order with the trips that were not selected, and drops
those without trips.  A new route comes with its new stops and one pattern, in which a trip runs for
every departure.  Either goes through where it was resolved and leaves everything else as it was.

* `TransitLayer.Without`: a timetable without some trips; `RemoveTrips.removes_trips` leaves it.
* `AddTrips.Serves`: a timetable with a route more; `AddTrips.adds_service` leaves it.
-/

namespace Multimodal

/-! ## Trips taken out -/

/-- The trips with one of these ids and the trips of the routes are gone, and so are the patterns that
have no trips then; nothing else is different. -/
structure TransitLayer.Without (t : TransitLayer) (routes trips : List String)
    (t' : TransitLayer) : Prop where
  records : t.SameRecords t'
  stopIndex? : ∀ id, t'.stopIndex? id = t.stopIndex? id
  routeIndex? : ∀ id, t'.routeIndex? id = t.routeIndex? id
  patterns : t'.patterns = (t.patterns.map fun p => { p with
    trips := p.trips.filter fun trip =>
      trip.id ∉ trips ∧ ∀ id ∈ routes, t.routeIndex? id ≠ some p.route }).filter
    (!·.trips.isEmpty)

namespace RemoveTrips

theorem keeps_resolve_iff (m : RemoveTrips) (t : TransitLayer) (route : RouteIndex) (trip : Trip) :
    (m.resolve t).1.keeps route trip = true ↔
      trip.id ∉ m.trips ∧ ∀ id ∈ m.routes, t.routeIndex? id ≠ some route := by
  show (route ∉ m.routes.filterMap t.routeIndex? && trip.id ∉ m.trips) = true ↔ _
  simp only [Bool.and_eq_true, decide_eq_true_iff, List.mem_filterMap, not_exists, not_and]
  exact and_comm

theorem without_stripLayer (m : RemoveTrips) (t : TransitLayer) :
    t.Without m.routes m.trips ((m.resolve t).1.stripLayer t) where
  records := ⟨rfl, rfl, rfl⟩
  stopIndex? _ := rfl
  routeIndex? _ := rfl
  patterns := by
    refine congrArg (List.filter _) (List.map_congr_left fun p _ => ?_)
    have hkept : p.trips.filter ((m.resolve t).1.keeps p.route) = p.trips.filter fun trip =>
        trip.id ∉ m.trips ∧ ∀ id ∈ m.routes, t.routeIndex? id ≠ some p.route :=
      List.filter_congr fun trip _ =>
        Bool.eq_iff_iff.2 ((m.keeps_resolve_iff t p.route trip).trans decide_eq_true_iff.symm)
    unfold strip
    rw [hkept]

/-- Taking out the selected trips goes through and leaves exactly the others, in their order.  It
remarks that nothing was taken out exactly if there are as many trips as before. -/
theorem removes_trips (m : RemoveTrips) (diagnostics : Diagnostics) (n : Network) :
    (⟨.removeTrips m, diagnostics⟩ : Modification).Turns n fun d t =>
      n.transit.content.Without m.routes m.trips t ∧
        d = if n.transit.content.tripCount = t.tripCount then
          ((⟨.removeTrips m, diagnostics⟩ : Modification).resolve n).1.diagnostics.warn
            .noTripsRemoved
        else ((⟨.removeTrips m, diagnostics⟩ : Modification).resolve n).1.diagnostics :=
  Modification.Turns.of_onTransit rfl
    ⟨_, _, ⟨m.without_stripLayer n.transit.content, rfl⟩, Step.removeTrips_apply _ _⟩

end RemoveTrips

namespace Sample

/-- Without the tram and one of the two buses there is one pattern with one trip left. -/
example :
    let x : Modification := ⟨.removeTrips { routes := ["r2"], trips := ["r1-0830"] }, {}⟩
    (((x.resolve town).1.apply town).2.1.transit.content.patterns.map fun p =>
      (p.route, p.trips.map (·.id))) = [(0, ["r1-0800"])] := by
  decide +kernel

end Sample

/-! ## Trips added -/

namespace AddTrips

/-- The trip leaves on the departure with this number and takes the durations of the route. -/
structure Runs (m : AddTrips) (departure : Seconds × Nat) (trip : Trip) : Prop where
  tells : trip.Tells s!"{m.routeId}:{departure.2}" departure.1 ⟨m.dwells, m.hops⟩
  start : trip.arrivals.head? = some departure.1
  inWindow : trip.finish ≤ serviceWindow

/-- The layer has the described service more: the stops that have a location, the route, and one
pattern that calls at the stops with the given ids and has a trip for every departure.  Nothing else
is different. -/
structure Serves (m : AddTrips) (t t' : TransitLayer) : Prop where
  stops : t'.stops = t.stops ++ (m.stops.filterMap newStop?).toArray
  routes : t'.routes = t.routes.push m.route
  patterns : ∃ calls trips, t'.patterns = t.patterns ++ [⟨t.routes.size, calls, trips⟩] ∧
    Found t' m.stops calls ∧ List.Forall₂ m.Runs m.departures.zipIdx trips
  feeds : t'.feeds = t.feeds
  wellFormed : t'.WellFormed

theorem runs_of_trips {m : AddTrips} (hdwells : m.dwells ≠ [])
    (hmatched : Durations.Matched ⟨m.dwells, m.hops⟩) {trips : List Trip}
    (h : m.trips = .ok trips) : List.Forall₂ m.Runs m.departures.zipIdx trips := by
  refine (Yields.forall₂_of_mapM h).imp fun departure trip htrip => ?_
  obtain ⟨htells, hwindow⟩ := Trip.tells_of_rebuild hmatched htrip
  exact ⟨htells, htells.start hdwells, hwindow⟩

theorem serves_of_laid {m : AddTrips} {t t' : TransitLayer} (hproblems : m.problems t = [])
    (h : m.Laid t t') (hwf : t'.WellFormed) : m.Serves t t' := by
  obtain ⟨hcount, hhops, hdwells⟩ := counts_of_problems hproblems
  obtain ⟨calls, trips, hfound, htrips, hpatterns⟩ := h.patterns
  have hmatched : Durations.Matched ⟨m.dwells, m.hops⟩ := by
    show m.hops.length = m.dwells.length - 1
    omega
  have hsome : m.dwells ≠ [] := by
    intro hnil
    rw [hnil] at hdwells
    simp only [List.length_nil] at hdwells
    omega
  exact ⟨h.stops, h.routes, ⟨calls, trips, hpatterns, hfound, runs_of_trips hsome hmatched htrips⟩,
    h.feeds, hwf⟩

theorem apply_serves {m : AddTrips} {w : Worksite TransitLayer} (hw : w.target.WellFormed)
    (h : m.problems w.target = []) :
    ∃ d t, m.Serves w.target t ∧ m.apply w = .ok () ⟨t, d⟩ := by
  have hlaid := ensures_addTrips (problems_eq_nil h).2.1 w
  have hwf := Step.orderly_addTrips m
  cases hx : m.apply w with
  | error f w' => exact absurd h (hlaid.error rfl hx).1
  | ok u w' =>
    exact ⟨w'.diagnostics, w'.target, serves_of_laid h (hlaid.ok rfl hx) (hwf.ok hw hx), rfl⟩

/-- Where a new route was resolved it goes through and adds exactly the described service. -/
theorem adds_service (m : AddTrips) (diagnostics : Diagnostics) (n : Network)
    (ht : n.transit.content.WellFormed)
    (hresolve : ((⟨.addTrips m, diagnostics⟩ : Modification).resolve n).2 = .ok ()) :
    (⟨.addTrips m, diagnostics⟩ : Modification).Turns n fun _ t =>
      m.Serves n.transit.content t :=
  Modification.Turns.of_onTransit rfl
    (apply_serves (w := ⟨n.transit.content, _⟩) ht (Modification.problems_eq_nil _ hresolve))

end AddTrips

namespace Sample

/-- The new line adds one stop, which stands after the six of the town, and calls at it twice. -/
theorem adds_service_roundTrip :
    (roundTrip.resolve town).2 = .ok () ∧
      (∃ m, roundTrip = ⟨.addTrips m, {}⟩ ∧ ∃ d t, m.Serves town.transit.content t ∧
        (roundTrip.resolve town).1.apply town =
          (⟨(roundTrip.resolve town).1.change, d⟩, { town with transit := ⟨t, false⟩ }, .ok ())) ∧
      ((roundTrip.resolve town).1.apply town).2.1.transit.content.patterns.drop 2 =
        [⟨2, [6, 0, 6], [⟨"r3:0", [25200, 25400, 25630], [25200, 25430, 25630]⟩]⟩] := by
  have hresolve : (roundTrip.resolve town).2 = .ok () := by decide +kernel
  exact ⟨hresolve, ⟨_, rfl, (AddTrips.adds_service _ {} town wellFormed_town hresolve).own rfl⟩,
    by decide +kernel⟩

end Sample

end Multimodal
