import Multimodal.Proofs.Modification.Prediction

/-! # Other speeds and dwell times

A change of speeds or of dwell times takes the trips of some routes apart, changes one kind of
durations and lays them out again.  Where it was resolved it goes through; then the trips of the
listed routes have the other durations, and everything else is as it was.

* `Listed`: the records that some ids stand for.
* `Trip.RelaidAs`, `Pattern.RetimedBy`, `TransitLayer.RetimedBy`: what has other durations.
* `Relays`: a revision that changes durations; `Relays.retimedBy` is a pattern, and
  `Step.Rewrites.retimedBy` all of them.
* `AdjustSpeed.rescales_hops`, `AdjustDwellTime.changes_dwells`: the two kinds.
-/

namespace Multimodal

/-! ## Records by ids -/

/-- The record at a position has one of these ids. -/
def Listed {α : Type} (id : α → String) (xs : Array α) (ids : List String) (i : Nat) : Bool :=
  xs[i]?.any fun x => id x ∈ ids

theorem Indexed.mem_filterMap_iff {α : Type} {id : α → String} {xs : Array α} (h : Indexed id xs)
    {ids : List String} {i : Nat} :
    i ∈ ids.filterMap (fun name => xs.findIdx? fun x => id x = name) ↔
      Listed id xs ids i = true := by
  unfold Listed
  simp only [List.mem_filterMap, h _ i, Option.any_eq_true, decide_eq_true_eq]
  constructor
  · rintro ⟨name, hname, x, hx, rfl⟩
    exact ⟨x, hx, hname⟩
  · rintro ⟨x, hx, hid⟩
    exact ⟨id x, hid, x, hx, rfl⟩

/-! ## Other durations -/

/-- The trip has its id and its first arrival still, but these durations; so many stops accept it, and
it ends inside the service window. -/
structure Trip.RelaidAs (t : Trip) (stops : Nat) (d : Durations) (t' : Trip) : Prop where
  id : t'.id = t.id
  start : t'.arrivals.head? = t.arrivals.head?
  durations : t'.durations? = some d
  accepted : t'.validate stops = .ok ()
  inWindow : t'.finish ≤ serviceWindow

/-- The pattern has its route and its stops still, and its trips, one by one, have other
durations. -/
structure Pattern.RetimedBy (g : List StopIndex → Durations → Durations) (p q : Pattern) :
    Prop where
  route : q.route = p.route
  stops : q.stops = p.stops
  trips : List.Forall₂
    (fun t t' => ∃ d, t.durations? = some d ∧ t.RelaidAs p.stops.length (g p.stops d) t')
    p.trips q.trips

/-- The patterns of the routes with these ids have other durations, and nothing else is different. -/
structure TransitLayer.RetimedBy (t : TransitLayer) (routes : List String)
    (g : List StopIndex → Durations → Durations) (t' : TransitLayer) : Prop where
  records : t.SameRecords t'
  patterns : List.Forall₂
    (fun p q => if Listed Route.id t.routes routes p.route then p.RetimedBy g q else q = p)
    t.patterns t'.patterns

theorem Trip.relaidAs_of_rebuild {t t' : Trip} {stops : Nat} {d : Durations}
    (hvalid : t.validate stops = .ok ()) (hdwells : d.dwells.length = stops) (hmatched : d.Matched)
    (h : Trip.rebuild t.id t.start d = .ok t') : t.RelaidAs stops d t' := by
  obtain ⟨htells, hwindow⟩ := Trip.tells_of_rebuild hmatched h
  have haccepted : t'.validate stops = .ok () := hdwells ▸ htells.accepted
  refine ⟨htells.id, ?_, htells.durations, haccepted, hwindow⟩
  have hold := (Trip.validate_iff.1 hvalid).2
  have hnew := (Trip.validate_iff.1 haccepted).2
  -- a trip without stops has no first arrival, and was laid out from midnight on
  cases harrivals : t.arrivals with
  | nil =>
    rw [harrivals] at hold
    rw [List.length_eq_zero_iff.1 (hnew.trans hold.symm)]
  | cons first later =>
    have hne : d.dwells ≠ [] := by
      rw [harrivals] at hold
      rintro hnil
      rw [hnil, ← hold] at hdwells
      cases hdwells
    rw [htells.start hne]
    unfold Trip.start
    rw [harrivals]
    rfl

/-- Revising an accepted trip changes its durations. -/
def Relays (f : List StopIndex → Trip → Except NetworkError Trip)
    (g : List StopIndex → Durations → Durations) : Prop :=
  ∀ (stops : List StopIndex) (t t' : Trip), t.validate stops.length = .ok () →
    f stops t = .ok t' → ∃ d, t.durations? = some d ∧ t.RelaidAs stops.length (g stops d) t'

section Revisions

variable {f : List StopIndex → Trip → Except NetworkError Trip}
  {g : List StopIndex → Durations → Durations}

theorem Relays.retimedBy (h : Relays f g) {p q : Pattern}
    (hp : ∀ trip ∈ p.trips, trip.validate p.stops.length = .ok ())
    (hq : (p.revise f).toOption = some q) : p.RetimedBy g q := by
  unfold Pattern.revise at hq
  cases htrips : p.trips.mapM (f p.stops) with
  | error e =>
    rw [htrips] at hq
    cases hq
  | ok trips =>
    rw [htrips] at hq
    cases hq
    have hall := (List.forall₂_and_left (p := fun t => t.validate p.stops.length = .ok ()) _ _).2
      ⟨hp, Yields.forall₂_of_mapM htrips⟩
    exact ⟨rfl, rfl, hall.imp fun t t' ht => h p.stops t t' ht.1 ht.2⟩

/-- A revision of the patterns of the listed routes that was tried out before. -/
theorem Step.Rewrites.retimedBy {w : Worksite TransitLayer} {routes : List String}
    {step : Step TransitLayer Unit} (h : Relays f g) (ht : w.target.WellFormed)
    (hstep : Rewrites (revisionOf (w.target.lookUpRoutes routes).1 f) w step)
    (hcheck : w.target.checkRevision (w.target.lookUpRoutes routes).1 f = []) :
    ∃ d t, w.target.RetimedBy routes g t ∧ step w = .ok () ⟨t, d⟩ := by
  cases hx : step w with
  | error failure w' =>
    -- what would fail was met when the revision was tried out
    exact absurd ⟨failure, w', hx⟩ (not_fails_of_checkRevision hstep hcheck)
  | ok a w' =>
    obtain ⟨hrewritten, hrecords⟩ := hstep.ok rfl hx
    refine ⟨w'.diagnostics, w'.target, ⟨hrecords, ?_⟩, rfl⟩
    have hall := (List.forall₂_and_left (p := (Pattern.Accepted · w.target)) _ _).2
      ⟨ht.patterns, hrewritten⟩
    refine hall.imp fun p q hpq => ?_
    obtain ⟨haccepted, hq⟩ := hpq
    unfold revisionOf onRoutes at hq
    have hlisted : p.route ∈ (w.target.lookUpRoutes routes).1 ↔ _ :=
      Indexed.mem_filterMap_iff ht.routeIds
    by_cases hroute : p.route ∈ (w.target.lookUpRoutes routes).1
    · rw [if_pos hroute] at hq
      rw [if_pos (hlisted.1 hroute)]
      exact h.retimedBy haccepted.trips hq
    · rw [if_neg hroute] at hq
      rw [if_neg fun hl => hroute (hlisted.2 hl)]
      exact (Option.some.inj hq).symm

end Revisions

/-! ## Other speeds -/

namespace AdjustSpeed

theorem relays_rescale (m : AdjustSpeed) :
    Relays m.rescale fun _ d => { d with hops := d.hops.map (·.scale (1.0 / m.scale)) } := by
  intro stops t t' h ht'
  obtain ⟨d, hd, -⟩ := Trip.durations?_isSome h
  obtain ⟨hdwells, hmatched⟩ := Trip.matched_of_durations? h hd
  rw [m.rescale_eq stops hd] at ht'
  refine ⟨d, hd, Trip.relaidAs_of_rebuild h hdwells ?_ ht'⟩
  exact (List.length_map _).trans hmatched

/-- Where a change of speeds was resolved it goes through and divides the hops of the listed routes by
the scale, one by one; nothing else is different. -/
theorem rescales_hops (m : AdjustSpeed) (diagnostics : Diagnostics) (n : Network)
    (ht : n.transit.content.WellFormed)
    (hresolve : ((⟨.adjustSpeed m, diagnostics⟩ : Modification).resolve n).2 = .ok ()) :
    (⟨.adjustSpeed m, diagnostics⟩ : Modification).Turns n fun _ t =>
      n.transit.content.RetimedBy m.routes
        (fun _ d => { d with hops := d.hops.map (·.scale (1.0 / m.scale)) }) t := by
  have hproblems : (m.resolve n.transit.content).2 = [] := Modification.problems_eq_nil _ hresolve
  have hcheck : n.transit.content.checkRevision (n.transit.content.lookUpRoutes m.routes).1
      (m.resolve n.transit.content).1.rescale = [] := (eq_nil_of_tried hproblems).2
  exact Modification.Turns.of_onTransit rfl (Step.Rewrites.retimedBy (w := ⟨n.transit.content, _⟩)
    (m.resolve n.transit.content).1.relays_rescale ht (Step.rewrites_adjustSpeed _ _) hcheck)

end AdjustSpeed

namespace Sample

/-- Halves the speed of the bus line. -/
def slowBuses : AdjustSpeed := { routes := ["r1"], scale := 0.5 }

/-- When the buses of the town are slower, they take twice as long from stop to stop and wait as long
as before; the tram does not change. -/
theorem rescales_hops_slowBuses :
    let x : Modification := ⟨.adjustSpeed slowBuses, {}⟩
    (x.resolve town).2 = .ok () ∧
      (∃ d t, town.transit.content.RetimedBy ["r1"]
          (fun _ d => { d with hops := d.hops.map (·.scale (1.0 / 0.5)) }) t ∧
        (x.resolve town).1.apply town =
          (⟨(x.resolve town).1.change, d⟩, { town with transit := ⟨t, false⟩ }, .ok ())) ∧
      (((x.resolve town).1.apply town).2.1.transit.content.patterns.map fun p =>
          p.trips.map (·.arrivals)) =
        [[[28800, 29040, 29310, 29580], [30600, 30840, 31110, 31380]], [[32400, 32700, 33060]]] := by
  intro x
  have hresolve : (x.resolve town).2 = .ok () := by decide +kernel
  exact ⟨hresolve, (AdjustSpeed.rescales_hops slowBuses {} town wellFormed_town hresolve).own rfl,
    by decide +kernel⟩

end Sample

/-! ## Other dwell times -/

namespace AdjustDwellTime

/-- What a dwell becomes: the one dwell that is given, or the old one scaled if a scale is given
instead. -/
inductive Decides (m : AdjustDwellTime) : (Seconds → Seconds) → Prop
  | dwell {v : Seconds} : m.dwell = some v → m.scale = none → m.Decides fun _ => v
  | scale {k : Float} : m.dwell = none → m.scale = some k → m.Decides (·.scale k)

theorem decides_newDwell {m : AdjustDwellTime} (h : m.faults = []) : m.Decides m.newDwell := by
  unfold faults at h
  obtain ⟨h, -⟩ := List.append_eq_nil_iff.1 h
  cases hdwell : m.dwell with
  | some v =>
    cases hscale : m.scale with
    | some k =>
      rw [hdwell, hscale] at h
      cases h
    | none =>
      have hnew : m.newDwell = fun _ => v := by
        funext current
        unfold newDwell
        rw [hdwell]
      exact hnew ▸ .dwell hdwell hscale
  | none =>
    cases hscale : m.scale with
    | some k =>
      have hnew : m.newDwell = (·.scale k) := by
        funext current
        unfold newDwell
        rw [hdwell, hscale]
      exact hnew ▸ .scale hdwell hscale
    | none =>
      rw [hdwell, hscale] at h
      cases h

theorem relays_redwell (m : AdjustDwellTime) :
    Relays m.redwell fun stops d => { d with dwells := m.changedDwells stops d.dwells } := by
  intro stops t t' h ht'
  obtain ⟨d, hd, -⟩ := Trip.durations?_isSome h
  obtain ⟨hdwells, hmatched⟩ := Trip.matched_of_durations? h hd
  rw [m.redwell_eq h hd] at ht'
  have hlength := m.length_changedDwells hdwells
  refine ⟨d, hd, Trip.relaidAs_of_rebuild h hlength ?_ ht'⟩
  unfold Durations.Matched at *
  rw [hmatched, hdwells, hlength]

/-- The dwells change at the listed stops, or at all stops if none is listed. -/
theorem selects_iff (m : AdjustDwellTime) {t : TransitLayer} (ht : t.WellFormed)
    (h : (t.lookUpStops m.stops).2 = []) (s : StopIndex) :
    (m.resolve t).1.selects s = true ↔
      m.stops = [] ∨ Listed Stop.id t.stops m.stops s = true := by
  show ((t.lookUpStops m.stops).1.isEmpty || s ∈ (t.lookUpStops m.stops).1) = true ↔ _
  rw [Bool.or_eq_true, List.isEmpty_iff, decide_eq_true_iff]
  exact or_congr (lookUp_eq_nil_iff h) (Indexed.mem_filterMap_iff ht.stopIds)

/-- Where a change of dwell times was resolved it goes through and changes the dwells of the listed
routes wherever a listed stop is called at, and everywhere if no stop is listed; nothing else is
different. -/
theorem changes_dwells (m : AdjustDwellTime) (diagnostics : Diagnostics) (n : Network)
    (ht : n.transit.content.WellFormed)
    (hresolve : ((⟨.adjustDwellTime m, diagnostics⟩ : Modification).resolve n).2 = .ok ()) :
    ∃ new, m.Decides new ∧ (⟨.adjustDwellTime m, diagnostics⟩ : Modification).Turns n fun _ t =>
      n.transit.content.RetimedBy m.routes
        (fun stops d => ⟨List.zipWith (fun s dwell =>
          if m.stops = [] ∨ Listed Stop.id n.transit.content.stops m.stops s then new dwell
          else dwell) stops d.dwells, d.hops⟩) t := by
  have hproblems : (m.resolve n.transit.content).2 = [] := Modification.problems_eq_nil _ hresolve
  have hcheck : n.transit.content.checkRevision (n.transit.content.lookUpRoutes m.routes).1
      (m.resolve n.transit.content).1.redwell = [] := (eq_nil_of_tried hproblems).2
  obtain ⟨hfaults, hstops⟩ := List.append_eq_nil_iff.1 (eq_nil_of_tried hproblems).1
  refine ⟨m.newDwell, decides_newDwell (List.append_eq_nil_iff.1 hfaults).1, ?_⟩
  have hrelays := (m.resolve n.transit.content).1.relays_redwell
  unfold changedDwells at hrelays
  simp only [m.selects_iff ht hstops] at hrelays
  exact Modification.Turns.of_onTransit rfl (Step.Rewrites.retimedBy (w := ⟨n.transit.content, _⟩)
    hrelays ht (Step.rewrites_adjustDwellTime _ _) hcheck)

end AdjustDwellTime

namespace Sample

/-- The town with the new line. -/
def toured : Network := ((roundTrip.resolve town).1.apply town).2.1

theorem wellFormed_toured : toured.transit.content.WellFormed :=
  (wellFormed_town.safe.apply (roundTrip.resolve town).1 town rfl rfl).1

/-- Vehicles of the new line wait at its new stop. -/
def waitAtNewStop : AdjustDwellTime := { routes := ["r3"], stops := ["z"], dwell := some 45 }

/-- The new line calls twice at its new stop, so that there both dwells change and the one between
them does not; the other lines run as before. -/
theorem changes_dwells_waitAtNewStop :
    let x : Modification := ⟨.adjustDwellTime waitAtNewStop, {}⟩
    (x.resolve toured).2 = .ok () ∧
      (∃ d t, toured.transit.content.RetimedBy ["r3"] (fun stops d => ⟨List.zipWith (fun s dwell =>
          if ["z"] = [] ∨ Listed Stop.id toured.transit.content.stops ["z"] s then 45 else dwell)
          stops d.dwells, d.hops⟩) t ∧
        (x.resolve toured).1.apply toured =
          (⟨(x.resolve toured).1.change, d⟩, { toured with transit := ⟨t, false⟩ }, .ok ())) ∧
      (((x.resolve toured).1.apply toured).2.1.transit.content.patterns.map fun p =>
          p.trips.map (·.durations?)) =
        [[some ⟨[0, 30, 30, 0], [120, 120, 120]⟩, some ⟨[0, 30, 30, 0], [120, 120, 120]⟩],
          [some ⟨[0, 60, 0], [300, 300]⟩], [some ⟨[45, 30, 45], [200, 200]⟩]] := by
  intro x
  have hresolve : (x.resolve toured).2 = .ok () := by decide +kernel
  obtain ⟨new, hnew, hturns⟩ :=
    AdjustDwellTime.changes_dwells waitAtNewStop {} toured wellFormed_toured hresolve
  cases hnew with
  | scale hdwell => cases hdwell
  | dwell hdwell =>
    cases hdwell
    exact ⟨hresolve, hturns.own (by decide +kernel), by decide +kernel⟩

end Sample

end Multimodal
