import Multimodal.Proofs.Modification.Outcomes
import Multimodal.Proofs.Street.Changes

/-! # New routes

A new route is laid in three parts: its stops are found or placed one after another, then the route is
added, and then its pattern with the trips.

* `AddTrips.Stocked`: a layer with some stops more.
* `ensures_placeStops`: the stops of a route, and what speaks against them if one cannot be placed.
* `AddTrips.Laid`, `ensures_addTrips`: what a new route leaves, and the two ways in which it fails.
-/

namespace Multimodal

namespace AddTrips

/-! ## Stops -/

/-- The stop that a description adds. -/
def newStop? (s : StopSpec) : Option Stop := s.location?.map fun c => ⟨s.id, s.name.getD s.id, c⟩

/-- Since the first worksite these stops were added, and nothing else happened. -/
structure Stocked (w₀ : Worksite TransitLayer) (added : List Stop) (w : Worksite TransitLayer) :
    Prop where
  stops : w.target.stops = w₀.target.stops ++ added.toArray
  routes : w.target.routes = w₀.target.routes
  patterns : w.target.patterns = w₀.target.patterns
  feeds : w.target.feeds = w₀.target.feeds
  diagnostics : w.diagnostics = w₀.diagnostics

/-- A stop with a location is new, and one without is known or added before. -/
def Placeable (t : TransitLayer) (fresh : List String) (s : StopSpec) : Prop :=
  match s.location? with
  | some _ => t.stopIndex? s.id = none ∧ s.id ∉ fresh
  | none => (t.stopIndex? s.id).isSome ∨ s.id ∈ fresh

variable {t : TransitLayer} {fresh : List String} {added : List Stop} {s : StopSpec}
  {rest : List StopSpec} {w₀ w : Worksite TransitLayer}

/-- If nothing speaks against the stops, the first one can be placed, and nothing speaks against the
others once it is. -/
theorem placeable_of_stopProblems (h : stopProblems t fresh (s :: rest) = []) :
    Placeable t fresh s ∧
      stopProblems t ((newStop? s).toList.map (·.id) ++ fresh) rest = [] := by
  unfold stopProblems at h
  unfold Placeable newStop? StopSpec.location?
  cases hlatitude : s.latitude with
  | some latitude =>
    cases hlongitude : s.longitude with
    | some longitude =>
      simp only [hlatitude, hlongitude] at h
      by_cases hknown : (t.stopIndex? s.id).isSome = true
      · rw [if_pos hknown] at h
        cases h
      · by_cases hfresh : s.id ∈ fresh
        · rw [if_neg hknown, if_pos hfresh] at h
          cases h
        · rw [if_neg hknown, if_neg hfresh] at h
          exact ⟨⟨Option.not_isSome_iff_eq_none.1 hknown, hfresh⟩, h⟩
    | none =>
      simp only [hlatitude, hlongitude] at h
      cases h
  | none =>
    cases hlongitude : s.longitude with
    | some longitude =>
      simp only [hlatitude, hlongitude] at h
      cases h
    | none =>
      simp only [hlatitude, hlongitude] at h
      by_cases hthere : ((t.stopIndex? s.id).isSome || s.id ∈ fresh) = true
      · rw [if_pos hthere] at h
        exact ⟨by simpa using hthere, h⟩
      · rw [if_neg hthere] at h
        cases h

theorem Stocked.isSome_stopIndex? (h : Stocked w₀ added w) (id : String) :
    (w.target.stopIndex? id).isSome ↔
      (w₀.target.stopIndex? id).isSome ∨ id ∈ added.map (·.id) := by
  unfold TransitLayer.stopIndex?
  rw [h.stops, Array.findIdx?_isSome, Array.findIdx?_isSome, Array.any_append, Bool.or_eq_true]
  refine or_congr_right ?_
  rw [List.any_toArray, List.any_eq_true, List.mem_map]
  simp only [decide_eq_true_eq]

/-- Placing one stop answers where the layer has a stop with the id.  It fails with a remark if the stop
is not placeable. -/
theorem ensures_placeStop (hfresh : ∀ id, id ∈ fresh ↔ id ∈ added.map (·.id)) :
    Ensures (Stocked w₀ added) (placeStop s)
      (fun i w => Stocked w₀ (added ++ (newStop? s).toList) w ∧
        ∃ stop, w.target.stops[i]? = some stop ∧ stop.id = s.id)
      fun f w => ¬Placeable w₀.target fresh s ∧ f.NotedIn w₀.diagnostics w.diagnostics := by
  intro w hw
  have hknown := hw.isSome_stopIndex? s.id
  rw [← hfresh] at hknown
  have hnoted : (⟨.stopChanged s.id, 0⟩ : StepFailure).NotedIn w₀.diagnostics
      (w.diagnostics.warn (.stopChanged s.id)) := by
    rw [hw.diagnostics]
    exact ⟨rfl, rfl⟩
  unfold placeStop
  rw [bind_of_ok (Step.target_apply w)]
  unfold Placeable newStop?
  cases hlocation : s.location? with
  | none =>
    cases hi : w.target.stopIndex? s.id with
    | none =>
      rw [hi] at hknown
      exact ⟨fun hs => Bool.false_ne_true (hknown.2 hs), hnoted⟩
    | some i =>
      obtain ⟨hlt, hid, -⟩ := Array.findIdx?_eq_some_iff_getElem.1 hi
      refine ⟨?_, w.target.stops[i], Array.getElem?_eq_getElem hlt, of_decide_eq_true hid⟩
      rw [Option.map_none, Option.toList_none, List.append_nil]
      exact hw
  | some c =>
    cases hi : w.target.stopIndex? s.id with
    | some i =>
      rw [hi] at hknown
      refine ⟨fun ⟨hunknown, hnew⟩ => ?_, hnoted⟩
      rw [hunknown] at hknown
      exact (hknown.1 rfl).elim Bool.false_ne_true hnew
    | none =>
      have hadd : Step.edit (TransitLayer.addStop ⟨s.id, s.name.getD s.id, c⟩) w =
          .ok w.target.stops.size
            ⟨w.target.withStop ⟨s.id, s.name.getD s.id, c⟩, w.diagnostics⟩ :=
        Step.edit_of_ok (by rw [TransitLayer.addStop_apply, hi]; rfl)
      simp only [hadd]
      refine ⟨⟨?_, hw.routes, hw.patterns, hw.feeds, hw.diagnostics⟩,
        ⟨s.id, s.name.getD s.id, c⟩, ?_, rfl⟩
      · show w.target.stops.push _ = _
        rw [hw.stops]
        simp
      · show (w.target.stops.push _)[w.target.stops.size]? = _
        rw [Array.getElem?_push_size]

/-- The stop at every position has the id of the description there. -/
def Found (t : TransitLayer) : List StopSpec → List StopIndex → Prop :=
  List.Forall₂ fun s i => ∃ stop, t.stops[i]? = some stop ∧ stop.id = s.id

theorem Found.lt_size {specs : List StopSpec} {calls : List StopIndex} (h : Found t specs calls)
    {i : StopIndex} (hi : i ∈ calls) : i < t.stops.size := by
  induction h with
  | nil => cases hi
  | @cons s i' specs calls hstop _ ih =>
    rcases List.mem_cons.1 hi with rfl | hi
    · obtain ⟨stop, hstop, -⟩ := hstop
      exact (Array.getElem?_eq_some_iff.1 hstop).1
    · exact ih hi

/-- Placing the stops of a route.  It fails with a remark, and then something speaks against them. -/
theorem ensures_placeStops (specs : List StopSpec)
    (hfresh : ∀ id, id ∈ fresh ↔ id ∈ added.map (·.id)) :
    Ensures (Stocked w₀ added) (specs.mapM placeStop)
      (fun calls w => Stocked w₀ (added ++ specs.filterMap newStop?) w ∧
        Found w.target specs calls)
      fun f w => stopProblems w₀.target fresh specs ≠ [] ∧
        f.NotedIn w₀.diagnostics w.diagnostics := by
  induction specs generalizing fresh added with
  | nil =>
    rw [List.mapM_nil, List.filterMap_nil, List.append_nil]
    exact Ensures.pure fun w hw => ⟨hw, List.Forall₂.nil⟩
  | cons s rest ih =>
    have hfresh' : ∀ id, id ∈ (newStop? s).toList.map (·.id) ++ fresh ↔
        id ∈ (added ++ (newStop? s).toList).map (·.id) := by
      intro id
      rw [List.map_append, List.mem_append, List.mem_append, hfresh, or_comm]
    have hadded : added ++ (s :: rest).filterMap newStop? =
        (added ++ (newStop? s).toList) ++ rest.filterMap newStop? := by
      rw [List.filterMap_cons, List.append_assoc]
      cases newStop? s with
      | none => rfl
      | some stop => rfl
    rw [List.mapM_cons, hadded]
    refine Ensures.bind ((ensures_placeStop hfresh).mono (fun _ hw => hw) (fun _ _ hw => hw)
      fun f w hw => ⟨fun h => hw.1 (placeable_of_stopProblems h).1, hw.2⟩) fun i => ?_
    rintro w ⟨hw, stop, hstop, hid⟩
    -- stops that come later leave this one where it is
    have hkept : ∀ w', Stocked w₀ ((added ++ (newStop? s).toList) ++ rest.filterMap newStop?) w' →
        w'.target.stops[i]? = some stop := by
      intro w' hw'
      have hextends : Extends w'.target.stops w.target.stops := by
        refine ⟨(rest.filterMap newStop?).toArray, ?_⟩
        rw [hw'.stops, hw.stops, Array.append_assoc]
        simp only [List.append_toArray]
      exact hextends.getElem?_eq_some hstop
    refine Ensures.bind ((ih hfresh').mono (fun _ hw => hw) (fun _ _ hw => hw)
      fun f w hw => ⟨fun h => hw.1 (placeable_of_stopProblems h).2, hw.2⟩) (fun calls => ?_) w hw
    refine Ensures.pure fun w' hw' => ⟨hw'.1, ?_⟩
    exact List.Forall₂.cons ⟨stop, hkept w' hw'.1, hid⟩ hw'.2

/-! ## The route, the pattern and the trips -/

def route (m : AddTrips) : Route := ⟨m.routeId, m.routeName, m.mode⟩

/-- The layer has the described service more: the new stops, the route, and one pattern that calls at
the stops with the trips; nothing else is different. -/
structure Laid (m : AddTrips) (t t' : TransitLayer) : Prop where
  stops : t'.stops = t.stops ++ (m.stops.filterMap newStop?).toArray
  routes : t'.routes = t.routes.push m.route
  patterns : ∃ calls trips, Found t' m.stops calls ∧ m.trips = .ok trips ∧
    t'.patterns = t.patterns ++ [⟨t.routes.size, calls, trips⟩]
  feeds : t'.feeds = t.feeds

theorem counts_of_problems {m : AddTrips} (h : m.problems t = []) :
    2 ≤ m.stops.length ∧ m.hops.length + 1 = m.stops.length ∧
      m.dwells.length = m.stops.length := by
  unfold problems countProblems at h
  simp only [List.append_eq_nil_iff, ite_eq_left_iff, ite_eq_right_iff, List.cons_ne_nil,
    imp_false, not_not, Nat.not_lt] at h
  obtain ⟨⟨⟨-, ⟨⟨hstops, hhops⟩, hdwells⟩, -⟩, -⟩, -⟩ := h
  exact ⟨hstops, hhops, hdwells⟩

theorem problems_eq_nil {m : AddTrips} (h : m.problems t = []) :
    t.routeIndex? m.routeId = none ∧ m.dwells.length = m.stops.length ∧
      (∃ trips, m.trips = .ok trips) ∧ stopProblems t [] m.stops = [] := by
  obtain ⟨hcount, hhops, hdwells⟩ := counts_of_problems h
  unfold problems at h
  obtain ⟨h, hstops⟩ := List.append_eq_nil_iff.1 h
  obtain ⟨h, htrips⟩ := List.append_eq_nil_iff.1 h
  obtain ⟨hroute, -⟩ := List.append_eq_nil_iff.1 h
  have hnew : t.routeIndex? m.routeId = none := by
    rw [← Option.not_isSome_iff_eq_none]
    intro hknown
    rw [if_pos hknown] at hroute
    cases hroute
  have hfits : m.fits = true := by
    unfold fits
    simp [hcount, hhops, hdwells]
  refine ⟨hnew, hdwells, ?_, hstops⟩
  unfold tripProblems at htrips
  rw [if_pos hfits] at htrips
  cases hx : m.trips with
  | ok trips => exact ⟨trips, rfl⟩
  | error e =>
    rw [hx] at htrips
    cases htrips

theorem accepted_of_found {m : AddTrips} (hdwells : m.dwells.length = m.stops.length)
    {calls : List StopIndex} (hfound : Found t m.stops calls) {trips : List Trip}
    (htrips : m.trips = .ok trips) :
    Pattern.Accepted ⟨t.routes.size, calls, trips⟩ (t.withRoute m.route) where
  route := by
    show t.routes.size < (t.routes.push _).size
    rw [Array.size_push]
    exact Nat.lt_succ_self _
  stops := fun i hi => hfound.lt_size hi
  trips := by
    intro trip htrip
    have hyields := Step.addTrips_yields m
    rw [htrips] at hyields
    have hlength : calls.length = m.dwells.length := by
      rw [hdwells]
      exact (List.Forall₂.length_eq hfound).symm
    show trip.validate calls.length = .ok ()
    rw [hlength]
    exact hyields trip htrip

/-- The last part of adding a route: its pattern with the trips. -/
def layPattern (m : AddTrips) (calls : List StopIndex) (i : RouteIndex) :
    Step TransitLayer Unit := do
  match m.trips with
  | .error e => Step.fail (.refused e)
  | .ok trips =>
    let _ ← Step.edit (TransitLayer.addPattern ⟨i, calls, trips⟩)

/-- When stops and route are there, only the trips can be wrong. -/
theorem ensures_layPattern {m : AddTrips} (hdwells : m.dwells.length = m.stops.length)
    {calls : List StopIndex} (hw : Stocked w₀ (m.stops.filterMap newStop?) w)
    (hfound : Found w.target m.stops calls) :
    Ensures (· = ⟨w.target.withRoute m.route, w.diagnostics⟩)
      (m.layPattern calls w.target.routes.size) (fun _ w' => Laid m w₀.target w'.target)
      fun f w' => m.problems w₀.target ≠ [] ∧ f.NotedIn w₀.diagnostics w'.diagnostics := by
  rintro w' rfl
  unfold layPattern
  cases htrips : m.trips with
  | error e =>
    refine ⟨fun h => ?_, ?_, rfl⟩
    · obtain ⟨trips, hok⟩ := (problems_eq_nil h).2.2.1
      rw [htrips] at hok
      cases hok
    · rw [← hw.diagnostics]
      rfl
  | ok trips =>
    have hpattern : Step.edit (TransitLayer.addPattern ⟨w.target.routes.size, calls, trips⟩)
        ⟨w.target.withRoute m.route, w.diagnostics⟩ =
        .ok w.target.patterns.length
          ⟨(w.target.withRoute m.route).withPatterns
            (w.target.patterns ++ [⟨w.target.routes.size, calls, trips⟩]), w.diagnostics⟩ := by
      refine Step.edit_of_ok ?_
      rw [TransitLayer.addPattern_apply,
        TransitLayer.checkPattern_of_accepted (accepted_of_found hdwells hfound htrips)]
      rfl
    have hlaid : Laid m w₀.target ((w.target.withRoute m.route).withPatterns
        (w.target.patterns ++ [⟨w.target.routes.size, calls, trips⟩])) := by
      refine ⟨hw.stops, ?_, ⟨calls, trips, hfound, htrips, ?_⟩, hw.feeds⟩
      · show w.target.routes.push _ = _
        rw [hw.routes]
      · show w.target.patterns ++ _ = _
        rw [hw.patterns, hw.routes]
    dsimp only
    rw [bind_of_ok hpattern]
    exact hlaid

/-- The route is refused because its id is taken; nothing is remarked. -/
structure Taken (m : AddTrips) (w₀ : Worksite TransitLayer) (f : StepFailure)
    (w : Worksite TransitLayer) : Prop where
  failure : f = ⟨.refused (.duplicateRoute m.routeId), 0⟩
  diagnostics : w.diagnostics = w₀.diagnostics
  known : (w₀.target.routeIndex? m.routeId).isSome

/-- Adding a new route with a dwell at every stop.  It fails only if something speaks against it, and
with a remark unless its id is taken. -/
theorem ensures_addTrips {m : AddTrips} (hdwells : m.dwells.length = m.stops.length)
    (w₀ : Worksite TransitLayer) :
    Ensures (· = w₀) m.apply (fun _ w => Laid m w₀.target w.target)
      fun f w => m.problems w₀.target ≠ [] ∧
        (f.NotedIn w₀.diagnostics w.diagnostics ∨ m.Taken w₀ f w) := by
  have hplaced : Ensures (Stocked w₀ []) (m.stops.mapM placeStop)
      (fun calls w => Stocked w₀ ([] ++ m.stops.filterMap newStop?) w ∧
        Found w.target m.stops calls)
      fun f w => stopProblems w₀.target [] m.stops ≠ [] ∧
        f.NotedIn w₀.diagnostics w.diagnostics := ensures_placeStops m.stops fun _ => Iff.rfl
  refine Ensures.bind (hplaced.mono ?_ (fun _ _ hw => hw) fun f w hw => ?_) fun calls => ?_
  · rintro w rfl
    exact ⟨by simp, rfl, rfl, rfl, rfl⟩
  · exact ⟨fun h => hw.1 (problems_eq_nil h).2.2.2, .inl hw.2⟩
  show Ensures _ (Step.edit (TransitLayer.addRoute m.route) >>= m.layPattern calls) _ _
  rintro w ⟨hw, hfound⟩
  have hsame : w.target.routeIndex? m.routeId = w₀.target.routeIndex? m.routeId := by
    unfold TransitLayer.routeIndex?
    rw [hw.routes]
  by_cases hroute : (w.target.routeIndex? m.routeId).isSome
  · have hrefused : Step.edit (TransitLayer.addRoute m.route) w =
        .error ⟨.refused (.duplicateRoute m.routeId), 0⟩ w :=
      Step.edit_of_error ((w.target.addRoute_apply m.route).trans (if_pos hroute))
    rw [hsame] at hroute
    have hspeaks : m.problems w₀.target ≠ [] := by
      intro h
      rw [(problems_eq_nil h).1] at hroute
      cases hroute
    rw [bind_of_error hrefused]
    exact ⟨hspeaks, .inr ⟨rfl, hw.diagnostics, hroute⟩⟩
  · have hadd : Step.edit (TransitLayer.addRoute m.route) w =
        .ok w.target.routes.size ⟨w.target.withRoute m.route, w.diagnostics⟩ :=
      Step.edit_of_ok ((w.target.addRoute_apply m.route).trans (if_neg hroute))
    rw [bind_of_ok hadd]
    exact (ensures_layPattern hdwells hw hfound).mono (fun _ hw' => hw') (fun _ _ hw' => hw')
      (fun _ _ hw' => ⟨hw'.1, .inl hw'.2⟩) _ rfl

end AddTrips

end Multimodal
