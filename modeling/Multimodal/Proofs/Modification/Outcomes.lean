import Multimodal.Proofs.Modification.Timetable

/-! # What a change of the timetable leaves

A change of the trips that run goes over the patterns one by one.  Either every pattern is rewritten,
or the change fails at one that cannot be, and remarks it.

* `Visits`, `Rewrites`: one pattern rewritten, and all of them; `Rewrites.fails_iff` is when that fails.
* `rewrites_adjustSpeed`, `rewrites_adjustDwellTime`, `rewrites_removeStops`: the changes that do this.
-/

namespace Multimodal

/-! ## Pattern by pattern -/

/-- The failure is the one remark that was recorded since. -/
structure StepFailure.NotedIn (f : StepFailure) (before after : Diagnostics) : Prop where
  warnings : after.warnings = before.warnings ++ [f.cause]
  further : f.further = 0

/-- Stops, routes and feeds are the same. -/
structure TransitLayer.SameRecords (t t' : TransitLayer) : Prop where
  stops : t'.stops = t.stops
  routes : t'.routes = t.routes
  feeds : t'.feeds = t.feeds

/-- Since the first worksite only patterns were rewritten, and now they are these. -/
structure Worksite.Shows (w₀ : Worksite TransitLayer) (patterns : List Pattern)
    (w : Worksite TransitLayer) : Prop where
  patterns : w.target.patterns = patterns
  records : w₀.target.SameRecords w.target
  diagnostics : w.diagnostics = w₀.diagnostics

/-- Every pattern is the one before it rewritten. -/
def RewrittenBy (g : Pattern → Option Pattern) : List Pattern → List Pattern → Prop :=
  List.Forall₂ fun p q => g p = some q

theorem RewrittenBy.exists_of_mem {g : Pattern → Option Pattern} {ps qs : List Pattern}
    (h : RewrittenBy g ps qs) {p : Pattern} (hp : p ∈ ps) : ∃ q, g p = some q := by
  induction h with
  | nil => cases hp
  | @cons p' q ps qs hq _ ih =>
    rcases List.mem_cons.1 hp with rfl | hp
    · exact ⟨q, hq⟩
    · exact ih hp

/-- The layer with a pattern opened and another one put in its place. -/
def TransitLayer.rewriteAt (t : TransitLayer) (i : PatternIndex) (q : Pattern) : TransitLayer :=
  (t.withPatterns t.patterns).replacePattern i q

namespace Step

variable {α : Type} {g : Pattern → Option Pattern} {w₀ : Worksite TransitLayer}
  {visit : PatternIndex → Step TransitLayer α} {p : Pattern} {rest : List Pattern}

/-- Wherever the visit finds the pattern, it rewrites it, or fails with a remark if it cannot be
rewritten. -/
def Visits (g : Pattern → Option Pattern) (visit : PatternIndex → Step TransitLayer α)
    (p : Pattern) : Prop :=
  ∀ (i : PatternIndex) (w : Worksite TransitLayer), w.target.patterns[i]? = some p →
    match g p with
    | some q => ∃ a, visit i w = .ok a ⟨w.target.rewriteAt i q, w.diagnostics⟩
    | none => ∃ cause t, visit i w = .error ⟨cause, 0⟩ ⟨t, w.diagnostics.warn cause⟩

theorem Visits.ensures (h : Visits g visit p) (done : List Pattern) :
    Ensures (w₀.Shows (done ++ p :: rest)) (visit done.length)
      (fun _ w => ∃ q, g p = some q ∧ w₀.Shows ((done ++ [q]) ++ rest) w)
      fun f w => g p = none ∧ f.NotedIn w₀.diagnostics w.diagnostics := by
  intro w hw
  have hthere : w.target.patterns[done.length]? = some p := by
    rw [hw.patterns, List.getElem?_append_right (Nat.le_refl _), Nat.sub_self]
    rfl
  have hvisit := h done.length w hthere
  cases hg : g p with
  | none =>
    rw [hg] at hvisit
    obtain ⟨cause, t, hfails⟩ := hvisit
    rw [hfails]
    refine ⟨rfl, ?_, rfl⟩
    rw [← hw.diagnostics]
    rfl
  | some q =>
    rw [hg] at hvisit
    obtain ⟨a, hpasses⟩ := hvisit
    rw [hpasses]
    refine ⟨q, rfl, ?_, ⟨hw.records.stops, hw.records.routes, hw.records.feeds⟩, hw.diagnostics⟩
    show w.target.patterns.set done.length q = _
    rw [hw.patterns, List.set_append_right _ _ (Nat.le_refl _), Nat.sub_self, List.set_cons_zero,
      List.append_assoc]
    rfl

/-- Visiting all patterns in turn, some of them being rewritten already. -/
theorem ensures_visitAll (done : List Pattern) (h : ∀ p ∈ rest, Visits g visit p) :
    Ensures (w₀.Shows (done ++ rest)) ((List.range' done.length rest.length).mapM visit)
      (fun _ w => ∃ qs, RewrittenBy g rest qs ∧ w₀.Shows (done ++ qs) w)
      fun f w => (∃ p ∈ rest, g p = none) ∧ f.NotedIn w₀.diagnostics w.diagnostics := by
  induction rest generalizing done with
  | nil =>
    rw [List.length_nil, List.range'_zero, List.mapM_nil]
    exact Ensures.pure fun w hw => ⟨[], List.Forall₂.nil, hw⟩
  | cons p rest ih =>
    rw [List.length_cons, List.range'_succ, List.mapM_cons]
    refine Ensures.bind (((h p List.mem_cons_self).ensures done).mono (fun _ hw => hw)
      (fun _ _ hw => hw) fun f w hw => ⟨⟨p, List.mem_cons_self, hw.1⟩, hw.2⟩) fun a => ?_
    rintro w ⟨q, hq, hw⟩
    have hlater := ih (done ++ [q]) fun p' hp' => h p' (List.mem_cons_of_mem p hp')
    rw [List.length_append, List.length_singleton] at hlater
    refine Ensures.bind (hlater.mono (fun _ hw => hw) (fun _ _ hw => hw) ?_) ?_ w hw
    · rintro f w' ⟨⟨p', hp', hnone⟩, hnoted⟩
      exact ⟨⟨p', List.mem_cons_of_mem p hp', hnone⟩, hnoted⟩
    · intro as
      refine Ensures.pure ?_
      rintro w' ⟨qs, hqs, hw'⟩
      rw [List.append_assoc] at hw'
      exact ⟨q :: qs, List.Forall₂.cons hq hqs, hw'⟩

/-- A pattern is rewritten if its route is one of these, and stays as it is otherwise. -/
def onRoutes (routes : List RouteIndex) (g : Pattern → Option Pattern) (p : Pattern) :
    Option Pattern :=
  if p.route ∈ routes then g p else some p

/-- Visiting the patterns of some routes in turn. -/
theorem ensures_visitRoutes {visit : PatternIndex → Step TransitLayer PUnit}
    (routes : List RouteIndex) (done : List Pattern) (h : ∀ p, Visits g visit p) :
    Ensures (w₀.Shows (done ++ rest))
      (((rest.zipIdx done.length).filterMap fun (p, i) =>
        if p.route ∈ routes then some i else none).forM visit)
      (fun _ w => ∃ qs, RewrittenBy (onRoutes routes g) rest qs ∧ w₀.Shows (done ++ qs) w)
      fun f w => (∃ p ∈ rest, onRoutes routes g p = none) ∧
        f.NotedIn w₀.diagnostics w.diagnostics := by
  induction rest generalizing done with
  | nil => exact Ensures.pure fun w hw => ⟨[], List.Forall₂.nil, hw⟩
  | cons p rest ih =>
    -- the pattern at hand became `q`, by a visit or without one
    have hlater : ∀ q, onRoutes routes g p = some q →
        Ensures (w₀.Shows ((done ++ [q]) ++ rest))
          (((rest.zipIdx (done.length + 1)).filterMap fun (p, i) =>
            if p.route ∈ routes then some i else none).forM visit)
          (fun _ w => ∃ qs, RewrittenBy (onRoutes routes g) (p :: rest) qs ∧
            w₀.Shows (done ++ qs) w)
          fun f w => (∃ p' ∈ p :: rest, onRoutes routes g p' = none) ∧
            f.NotedIn w₀.diagnostics w.diagnostics := by
      intro q hq
      have hrest := ih (done ++ [q])
      rw [List.length_append, List.length_singleton] at hrest
      refine hrest.mono (fun _ hw => hw) ?_ ?_
      · rintro _ w ⟨qs, hqs, hw⟩
        rw [List.append_assoc] at hw
        exact ⟨q :: qs, List.Forall₂.cons hq hqs, hw⟩
      · rintro f w ⟨⟨p', hp', hnone⟩, hnoted⟩
        exact ⟨⟨p', List.mem_cons_of_mem p hp', hnone⟩, hnoted⟩
    rw [List.zipIdx_cons, List.filterMap_cons]
    by_cases hroute : p.route ∈ routes
    · have hon : onRoutes routes g p = g p := if_pos hroute
      simp only [if_pos hroute]
      refine Ensures.bind (((h p).ensures done).mono (fun _ hw => hw) (fun _ _ hw => hw)
        fun f w hw => ⟨⟨p, List.mem_cons_self, hon.trans hw.1⟩, hw.2⟩) fun _ => ?_
      rintro w ⟨q, hq, hw⟩
      exact hlater q (hon.trans hq) w hw
    · simp only [if_neg hroute]
      intro w hw
      refine hlater p (if_neg hroute) w ?_
      rwa [List.append_assoc]

/-- From this worksite the step rewrites every pattern and leaves the other records, or it fails at a
pattern that cannot be rewritten and remarks why. -/
def Rewrites (g : Pattern → Option Pattern) (w₀ : Worksite TransitLayer)
    (step : Step TransitLayer α) : Prop :=
  Ensures (· = w₀) step
    (fun _ w => RewrittenBy g w₀.target.patterns w.target.patterns ∧
      w₀.target.SameRecords w.target)
    fun f w => (∃ p ∈ w₀.target.patterns, g p = none) ∧ f.NotedIn w₀.diagnostics w.diagnostics

theorem shows_self (w₀ : Worksite TransitLayer) : w₀.Shows ([] ++ w₀.target.patterns) w₀ :=
  ⟨rfl, ⟨rfl, rfl, rfl⟩, rfl⟩

theorem Rewrites.fails_iff {step : Step TransitLayer α} (h : Rewrites g w₀ step) :
    Fails step w₀ ↔ ∃ p ∈ w₀.target.patterns, g p = none := by
  cases hx : step w₀ with
  | ok a w =>
    refine iff_of_false (not_fails_of_ok hx) ?_
    rintro ⟨p, hp, hnone⟩
    obtain ⟨q, hq⟩ := (h.ok rfl hx).1.exists_of_mem hp
    rw [hnone] at hq
    cases hq
  | error f w => exact iff_of_true ⟨f, w, hx⟩ (h.error rfl hx).1

theorem Rewrites.noted {step : Step TransitLayer α} (h : Rewrites g w₀ step) :
    Ensures (· = w₀) step (fun _ w => w₀.target.SameRecords w.target)
      fun f w => f.NotedIn w₀.diagnostics w.diagnostics :=
  h.mono (fun _ hw => hw) (fun _ _ hw => hw.2) fun _ _ hw => hw.2

theorem Rewrites.of_shows {step : Step TransitLayer α}
    (h : Ensures (w₀.Shows ([] ++ w₀.target.patterns)) step
      (fun _ w => ∃ qs, RewrittenBy g w₀.target.patterns qs ∧ w₀.Shows ([] ++ qs) w)
      fun f w => (∃ p ∈ w₀.target.patterns, g p = none) ∧
        f.NotedIn w₀.diagnostics w.diagnostics) : Rewrites g w₀ step := by
  refine h.mono ?_ ?_ fun _ _ hw => hw
  · rintro w rfl
    exact shows_self w
  · rintro _ w ⟨qs, hqs, hw⟩
    rw [hw.patterns]
    exact ⟨hqs, hw.records⟩

/-- A remark after all patterns were rewritten leaves them so. -/
theorem Rewrites.of_bind {β : Type} {first : Step TransitLayer α} {next : α → Step TransitLayer β}
    (hfirst : Rewrites g w₀ first)
    (hnext : ∀ a t, Ensures (fun w => w.target = t) (next a) (fun _ w => w.target = t)
      fun _ _ => False) : Rewrites g w₀ (first >>= next) := by
  refine Ensures.bind hfirst fun a => ?_
  rintro w ⟨hrewritten, hrecords⟩
  have hlast := hnext a w.target w rfl
  cases hx : next a w with
  | ok b w' =>
    rw [hx] at hlast
    have htarget : w'.target = w.target := hlast
    show RewrittenBy g _ w'.target.patterns ∧ w₀.target.SameRecords w'.target
    rw [htarget]
    exact ⟨hrewritten, hrecords⟩
  | error f w' =>
    rw [hx] at hlast
    exact hlast.elim

theorem ensures_warnIf {t : TransitLayer} {c : Prop} [Decidable c] (r : Remark) :
    Ensures (fun w => w.target = t) (if c then warn r else pure ⟨⟩ : Step TransitLayer Unit)
      (fun _ w => w.target = t) fun _ _ => False := by
  by_cases hc : c
  · rw [if_pos hc]
    exact Ensures.warn (I := fun t' => t' = t)
  · rw [if_neg hc]
    exact Ensures.pure fun _ hw => hw

/-! ## Revised patterns -/

theorem edit_openPattern {w : Worksite TransitLayer} {i : PatternIndex} {p : Pattern}
    (hp : w.target.patterns[i]? = some p) :
    edit (TransitLayer.openPattern i) w =
      .ok p ⟨w.target.withPatterns w.target.patterns, w.diagnostics⟩ :=
  edit_of_ok (by rw [TransitLayer.openPattern_apply, hp])

theorem visits_revisePattern (f : List StopIndex → Trip → Except NetworkError Trip)
    (p : Pattern) : Visits (fun p => (p.revise f).toOption) (revisePattern f) p := by
  intro i w hp
  unfold revisePattern
  rw [bind_of_ok (edit_openPattern hp)]
  dsimp only
  cases p.revise f with
  | ok q => exact ⟨⟨⟩, rfl⟩
  | error e => exact ⟨.refused e, _, rfl⟩

/-- A revision rewrites the patterns of the routes. -/
def revisionOf (routes : List RouteIndex) (f : List StopIndex → Trip → Except NetworkError Trip) :
    Pattern → Option Pattern :=
  onRoutes routes fun p => (p.revise f).toOption

theorem rewrites_revisePatterns (routes : List RouteIndex)
    (f : List StopIndex → Trip → Except NetworkError Trip) (w₀ : Worksite TransitLayer) :
    Rewrites (revisionOf routes f) w₀ (revisePatterns routes f) := by
  refine Rewrites.of_shows ?_
  refine Ensures.bind (R := fun t w => t.patterns = w₀.target.patterns ∧
    w₀.Shows ([] ++ w₀.target.patterns) w) (fun w hw => ⟨hw.patterns, hw⟩) fun t => ?_
  rintro w ⟨ht, hw⟩
  have hvisits := ensures_visitRoutes routes [] (visits_revisePattern f) w hw
  unfold TransitLayer.patternsOf
  rw [ht]
  exact hvisits

theorem rewrites_adjustSpeed (m : AdjustSpeed) (w₀ : Worksite TransitLayer) :
    Rewrites (revisionOf m.foundRoutes m.rescale) w₀ m.apply := by
  refine Ensures.bind (R := fun _ w => w = w₀) (fun w hw => hw) fun t => ?_
  exact Rewrites.of_bind (rewrites_revisePatterns m.foundRoutes m.rescale w₀)
    fun _ _ => ensures_warnIf .noTripsSelected

theorem rewrites_adjustDwellTime (m : AdjustDwellTime) (w₀ : Worksite TransitLayer) :
    Rewrites (revisionOf m.foundRoutes m.redwell) w₀ m.apply :=
  rewrites_revisePatterns m.foundRoutes m.redwell w₀

/-! ## Skipped stops -/

end Step

/-- Whether the pattern is one of those concerned and calls at one of the stops. -/
def RemoveStops.touches (m : RemoveStops) (p : Pattern) : Bool :=
  m.concerns p.route && (m.keptPositions p).length ≠ p.stops.length

/-- The pattern without the stops, if it keeps enough of them. -/
def RemoveStops.cut? (m : RemoveStops) (p : Pattern) : Option Pattern :=
  if m.touches p then
    if (m.keptPositions p).length < 2 then none
    else
      (p.trips.mapM (Trip.skip (m.keptPositions p))).toOption.map fun trips =>
        { p with stops := p.stops.filter (· ∉ m.foundStops), trips }
  else some p

theorem RemoveStops.not_touches (m : RemoveStops) (p : Pattern) :
    (!m.concerns p.route || (m.keptPositions p).length = p.stops.length) = !m.touches p := by
  unfold touches
  cases m.concerns p.route with
  | true => simp
  | false => rfl

namespace Step

theorem rewriteAt_self {t : TransitLayer} {i : PatternIndex} {p : Pattern}
    (hp : t.patterns[i]? = some p) : t.rewriteAt i p = t.withPatterns t.patterns := by
  obtain ⟨hi, rfl⟩ := List.getElem?_eq_some_iff.1 hp
  unfold TransitLayer.rewriteAt TransitLayer.replacePattern TransitLayer.withPatterns
  simp

theorem visits_applyToPattern (m : RemoveStops) {p : Pattern}
    (hp : ∀ trip ∈ p.trips, trip.validate p.stops.length = .ok ()) :
    Visits m.cut? m.applyToPattern p := by
  intro i w hi
  unfold RemoveStops.applyToPattern RemoveStops.cut?
  rw [bind_of_ok (edit_openPattern hi)]
  simp only [m.not_touches]
  cases m.touches p with
  | false =>
    refine ⟨false, ?_⟩
    rw [rewriteAt_self hi]
    rfl
  | true =>
    by_cases hfew : (m.keptPositions p).length < 2
    · simp only [if_pos hfew]
      exact ⟨_, _, bind_of_error rfl⟩
    · simp only [if_neg hfew]
      obtain ⟨trips, hskipped, -⟩ := skipTrips_eq_ok hp hfew
      rw [hskipped]
      exact ⟨true, rfl⟩

theorem rewrites_removeStops (m : RemoveStops) {w₀ : Worksite TransitLayer}
    (h : w₀.target.WellFormed) : Rewrites m.cut? w₀ m.apply := by
  refine Ensures.bind (R := fun t w => t = w₀.target ∧ w = w₀)
    (fun w hw => ⟨congrArg Worksite.target hw, hw⟩) fun t => ?_
  rintro w ⟨rfl, hw⟩
  have hvisits : Rewrites m.cut? w₀
      ((List.range w₀.target.patterns.length).mapM m.applyToPattern) := by
    refine Rewrites.of_shows ?_
    rw [List.range_eq_range']
    exact ensures_visitAll [] fun p hp => visits_applyToPattern m (h.patterns p hp).trips
  exact Rewrites.of_bind hvisits (fun _ _ => ensures_warnIf .noPatternCalls) w hw

end Step

end Multimodal
