import Multimodal.Proofs.Modification.NewRoutes
import Multimodal.Proofs.Scenario.Scopes

/-! # Causes on record

A report lists what was recorded of a modification that failed, and what made it fail should be part of
it.  It is, with one exception: of two new routes with the same id in one scenario both resolve, and the
later one is refused without a remark.

* `Report.CarriesCause`: the cause is on record, with the problems that the failure counts.
* `Change.ensures_noted`: a change of the timetable that fails remarks why, or its route is there.
* `Applies.route_origin`: the routes that a run leaves are old ones or come from the run.
* `Scenario.RepeatsRoute`, `Scenario.carriesCause_or_repeatsRoute`: the exception, and that it is one.
-/

namespace Multimodal

/-- The cause of the failure is among the remarks, and after it as many others as the failure counts. -/
def Report.CarriesCause (r : Report) : Prop :=
  ∃ earlier further, r.warnings = earlier ++ r.failure.cause :: further ∧
    further.length = r.failure.further

/-! ## Resolving -/

theorem Modification.carriesCause_of_resolve {x : Modification} {n : Network} {f : StepFailure}
    (h : (x.resolve n).2 = .error f) (position : Nat) :
    (Report.capture position (resolvedBy n x) f).CarriesCause := by
  have hcheck : (x.diagnostics.check (x.change.resolve n).2).2 = .error f := h
  have hwarnings : (resolvedBy n x).diagnostics.warnings =
      x.diagnostics.warnings ++ (x.change.resolve n).2 := by
    show (x.diagnostics.check (x.change.resolve n).2).1.warnings = _
    unfold Diagnostics.check
    cases (x.change.resolve n).2 <;> rfl
  cases hproblems : (x.change.resolve n).2 with
  | nil =>
    rw [hproblems] at hcheck
    cases hcheck
  | cons first rest =>
    rw [hproblems] at hcheck hwarnings
    cases hcheck
    exact ⟨x.diagnostics.warnings, rest, hwarnings, rfl⟩

theorem Modification.diagnostics_of_resolve {x : Modification} {n : Network}
    (h : (x.resolve n).2 = .ok ()) : (resolvedBy n x).diagnostics = x.diagnostics := by
  show (x.diagnostics.check (x.change.resolve n).2).1 = _
  rw [x.problems_eq_nil h]
  unfold Diagnostics.check
  rw [List.append_nil]

namespace Change

/-- The id of the route that a change adds. -/
def newRoute? : Change → Option String
  | addTrips m => some m.routeId
  | modifyStreets _ | removeStreets _ | addStreets _ | removeTrips _ | removeStops _
  | adjustSpeed _ | adjustDwellTime _ => none

/-- A new route has a dwell at every stop. -/
def Fits : Change → Prop
  | addTrips m => m.dwells.length = m.stops.length
  | modifyStreets _ | removeStreets _ | addStreets _ | removeTrips _ | removeStops _
  | adjustSpeed _ | adjustDwellTime _ => True

theorem newRoute?_resolve (c : Change) (n : Network) :
    (c.resolve n).1.newRoute? = c.newRoute? := by
  cases c <;> rfl

theorem fits_resolve (c : Change) {n : Network} (h : (c.resolve n).2 = []) :
    (c.resolve n).1.Fits := by
  cases c with
  | addTrips m => exact (AddTrips.problems_eq_nil h).2.1
  | _ => trivial

theorem routeIndex?_of_resolve {c : Change} {n : Network} (h : (c.resolve n).2 = []) {id : String}
    (hid : c.newRoute? = some id) : n.transit.content.routeIndex? id = none := by
  cases c with
  | addTrips m =>
    obtain rfl : m.routeId = id := Option.some.inj hid
    exact (AddTrips.problems_eq_nil h).1
  | _ => cases hid

/-! ## Applying one change -/

/-- The change adds a route that is there; it is refused, and nothing is remarked. -/
def RouteThere (c : Change) (w₀ : Worksite Network) (f : StepFailure) (w : Worksite Network) :
    Prop :=
  ∃ id, c.newRoute? = some id ∧ (w₀.target.transit.content.routeIndex? id).isSome ∧
    f = ⟨.refused (.duplicateRoute id), 0⟩ ∧ w.diagnostics = w₀.diagnostics

end Change

/-- Every route is an old one or the new one. -/
def TransitLayer.RoutesFrom (t : TransitLayer) (new : Option String) (t' : TransitLayer) : Prop :=
  ∀ id, (t'.routeIndex? id).isSome → (t.routeIndex? id).isSome ∨ new = some id

theorem TransitLayer.SameRecords.routesFrom {t t' : TransitLayer} (h : t.SameRecords t')
    (new : Option String) : t.RoutesFrom new t' := by
  intro id hid
  unfold routeIndex? at *
  rw [h.routes] at hid
  exact .inl hid

theorem AddTrips.Laid.routesFrom {m : AddTrips} {t t' : TransitLayer} (h : m.Laid t t') :
    t.RoutesFrom (some m.routeId) t' := by
  intro id hid
  unfold TransitLayer.routeIndex? at *
  rw [Array.findIdx?_isSome, h.routes, Array.any_push, Bool.or_eq_true] at hid
  rw [Array.findIdx?_isSome]
  exact hid.imp (fun hold => hold) fun hnew => congrArg some (of_decide_eq_true hnew)

theorem Step.ensures_onTransit {α : Type} {step : Step TransitLayer α} {w₀ : Worksite Network}
    {Q : α → Worksite TransitLayer → Prop} {E : StepFailure → Worksite TransitLayer → Prop}
    (h : Ensures (· = ⟨w₀.target.transit.content, w₀.diagnostics⟩) step Q E)
    (hown : w₀.target.transit.shared = false) :
    Ensures (· = w₀) (onTransit step)
      (fun a w => Q a ⟨w.target.transit.content, w.diagnostics⟩)
      fun f w => E f ⟨w.target.transit.content, w.diagnostics⟩ := by
  rintro w rfl
  have hstep := h _ rfl
  unfold onTransit
  rw [hown]
  simp only [Bool.false_eq_true, if_false]
  cases hx : step ⟨w.target.transit.content, w.diagnostics⟩ with
  | ok a t =>
    rw [hx] at hstep
    exact hstep
  | error f t =>
    rw [hx] at hstep
    exact hstep

/-- The timetable is well formed, and nobody else holds it. -/
structure Network.OwnTimetable (n : Network) : Prop where
  wellFormed : n.transit.content.WellFormed
  own : n.transit.shared = false

/-- A change of the timetable adds its route at most.  If it fails it remarks why, or its route is
there. -/
theorem Change.ensures_noted (c : Change) (hc : c.isStreet = false) (hfits : c.Fits)
    (w₀ : Worksite Network) (h : w₀.target.OwnTimetable) :
    Ensures (· = w₀) c.apply
      (fun _ w => w₀.target.transit.content.RoutesFrom c.newRoute? w.target.transit.content)
      fun f w => f.NotedIn w₀.diagnostics w.diagnostics ∨ c.RouteThere w₀ f w := by
  -- all kinds but one leave the routes as they are and remark whatever they fail at
  have hnoted : ∀ {step : Step TransitLayer Unit},
      Ensures (· = ⟨w₀.target.transit.content, w₀.diagnostics⟩) step
        (fun _ w => w₀.target.transit.content.SameRecords w.target)
        (fun f w => f.NotedIn w₀.diagnostics w.diagnostics) →
      Ensures (· = w₀) (Step.onTransit step)
        (fun _ w => w₀.target.transit.content.RoutesFrom c.newRoute? w.target.transit.content)
        fun f w => f.NotedIn w₀.diagnostics w.diagnostics ∨ c.RouteThere w₀ f w :=
    fun hstep => (Step.ensures_onTransit hstep h.own).mono (fun _ hw => hw)
      (fun _ _ hw => hw.routesFrom c.newRoute?) fun _ _ hw => .inl hw
  cases c with
  | modifyStreets m | removeStreets m | addStreets m => cases hc
  | removeTrips m =>
    refine hnoted ?_
    rintro w rfl
    rw [Step.removeTrips_apply]
    exact ⟨rfl, rfl, rfl⟩
  | removeStops m => exact hnoted (Step.rewrites_removeStops m h.wellFormed).noted
  | adjustSpeed m => exact hnoted (Step.rewrites_adjustSpeed m _).noted
  | adjustDwellTime m => exact hnoted (Step.rewrites_adjustDwellTime m _).noted
  | addTrips m =>
    refine (Step.ensures_onTransit (AddTrips.ensures_addTrips hfits _) h.own).mono
      (fun _ hw => hw) (fun _ _ hw => hw.routesFrom) fun f w hw => ?_
    rcases hw.2 with hnoted | htaken
    · exact .inl hnoted
    · exact .inr ⟨m.routeId, rfl, htaken.known, htaken.failure, htaken.diagnostics⟩

/-! ## Applying one modification -/

namespace Modification

variable {x x' : Modification} {n n' : Network} {f : StepFailure}

theorem noted_of_failure (hx : x.change.isStreet = false) (hfits : x.change.Fits)
    (hn : n.OwnTimetable) (h : x.apply n = (x', n', .error f)) :
    f.NotedIn x.diagnostics x'.diagnostics ∨
      ∃ id, x.change.newRoute? = some id ∧ (n.transit.content.routeIndex? id).isSome ∧
        f = ⟨.refused (.duplicateRoute id), 0⟩ ∧ x'.diagnostics = x.diagnostics :=
  (x.change.ensures_noted hx hfits ⟨n, x.diagnostics⟩ hn).of_apply_error rfl h

theorem transit_of_apply {r : Except StepFailure Unit} (hx : x.change.isStreet = true)
    (h : x.apply n = (x', n', r)) : n'.transit = n.transit := by
  have hkept := x.layer_apply n
  rw [h, hx] at hkept
  exact Sum.inr.inj hkept

theorem routesFrom_of_apply (hfits : x.change.Fits) (hn : n.OwnTimetable)
    (h : x.apply n = (x', n', .ok ())) :
    n.transit.content.RoutesFrom x.change.newRoute? n'.transit.content := by
  cases hx : x.change.isStreet with
  | true =>
    rw [transit_of_apply hx h]
    exact fun id hid => .inl hid
  | false =>
    exact (x.change.ensures_noted hx hfits ⟨n, x.diagnostics⟩ hn).of_apply_ok rfl h

theorem ownTimetable_of_apply (hn : n.OwnTimetable) (h : x.apply n = (x', n', .ok ())) :
    n'.OwnTimetable := by
  have hbecomes : n.Becomes n' := Applies.becomes (.cons h (.nil n'))
  refine ⟨?_, hbecomes.transit.shared.trans hn.own⟩
  cases hx : x.change.isStreet with
  | true =>
    rw [transit_of_apply hx h]
    exact hn.wellFormed
  | false =>
    have hscope : x.change.scope.transit = true := by
      rw [x.change.scope_eq, hx]
      rfl
    have horderly := (x.apply_orderly hscope hn.wellFormed).1
    rwa [h] at horderly

end Modification

/-! ## Runs -/

/-- The routes that a run leaves were there before or come from its modifications. -/
theorem Applies.route_origin {n n' : Network} {xs xs' : List Modification}
    (h : Applies n xs xs' n') (hfits : ∀ x ∈ xs, x.change.Fits) (hn : n.OwnTimetable) :
    n'.OwnTimetable ∧ ∀ id, (n'.transit.content.routeIndex? id).isSome →
      (n.transit.content.routeIndex? id).isSome ∨ ∃ x ∈ xs, x.change.newRoute? = some id := by
  induction h with
  | nil n => exact ⟨hn, fun id hid => .inl hid⟩
  | @cons n n₁ n' x x' xs xs' hfirst hrest ih =>
    obtain ⟨hx, hxs⟩ := List.forall_mem_cons.1 hfits
    obtain ⟨hn', horigin⟩ := ih hxs (Modification.ownTimetable_of_apply hn hfirst)
    refine ⟨hn', fun id hid => ?_⟩
    rcases horigin id hid with hmet | ⟨y, hy, hadds⟩
    · rcases Modification.routesFrom_of_apply hx hn hfirst id hmet with hold | hnew
      · exact .inl hold
      · exact .inr ⟨x, List.mem_cons_self, hnew⟩
    · exact .inr ⟨y, List.mem_cons_of_mem x hy, hadds⟩

/-! ## Whole applications -/

namespace Scenario

/-- The report is on a modification whose route an earlier one of the scenario has added, and nothing
was recorded when it was refused. -/
structure RepeatsRoute (s : Scenario Modification) (r : Report) (id : String) : Prop where
  adds : ∃ x, s.canonical.modifications[r.position]? = some x ∧ x.change.newRoute? = some id ∧
    r.warnings = x.diagnostics.warnings
  added : ∃ i < r.position, ∃ y, s.canonical.modifications[i]? = some y ∧
    y.change.newRoute? = some id
  failure : r.failure = ⟨.refused (.duplicateRoute id), 0⟩

theorem RepeatsRoute.not_carriesCause {s : Scenario Modification} {r : Report} {id : String}
    (h : s.RepeatsRoute r id) (hfresh : ∀ x ∈ s.modifications, x.diagnostics.warnings = []) :
    ¬r.CarriesCause := by
  rintro ⟨earlier, further, hwarnings, -⟩
  obtain ⟨x, hx, -, hrecord⟩ := h.adds
  have hmem := (stablySorted_canonicalize s.modifications).perm.mem_iff.1
    (List.mem_of_getElem? hx)
  rw [hrecord, hfresh x hmem] at hwarnings
  exact List.append_ne_nil_of_right_ne_nil _ (List.cons_ne_nil _ _) hwarnings.symm

variable {s : Scenario Modification} {baseline : Network}

/-- If a modification fails after all have resolved and those before it were applied, the report on it
carries the cause, or it repeats a route. -/
theorem carriesCause_of_stopped {before before' rest : List Modification} {m m' : Modification}
    {n n' : Network} {f : StepFailure} (ht : baseline.transit.content.WellFormed)
    (hresolve : ∀ x ∈ s.canonical.modifications,
      (Modifies.resolve x (baseline.scopedCopy s.canonical.scope)).2 = .ok ())
    (hsplit : s.canonical.modifications.map
      (resolvedBy (baseline.scopedCopy s.canonical.scope)) = before ++ m :: rest)
    (hbefore : Applies (baseline.scopedCopy s.canonical.scope) before before' n)
    (hfails : Modifies.apply m n = (m', n', .error f)) :
    (Report.capture before.length m' f).CarriesCause ∨
      ∃ id, s.RepeatsRoute (.capture before.length m' f) id := by
  have hother := s.timetable_of_stopped baseline hresolve hsplit hbefore hfails
  have hown : (baseline.scopedCopy s.canonical.scope).OwnTimetable := by
    refine ⟨?_, (Network.writable_scopedCopy baseline s.canonical.scope).transit
      (transit_in_scope hsplit hother)⟩
    rwa [(baseline.copyOf_scopedCopy s.canonical.scope).transit]
  have hfits : ∀ y ∈ before ++ m :: rest, y.change.Fits := by
    intro y hy
    rw [← hsplit] at hy
    obtain ⟨x, hx, rfl⟩ := List.mem_map.1 hy
    exact x.change.fits_resolve (x.problems_eq_nil (hresolve x hx))
  obtain ⟨hn, horigin⟩ :=
    hbefore.route_origin (fun y hy => hfits y (List.mem_append_left _ hy)) hown
  have hearlier : ∀ y ∈ before, ∃ i < before.length, ∃ z,
      s.canonical.modifications[i]? = some z ∧
        resolvedBy (baseline.scopedCopy s.canonical.scope) z = y := by
    intro y hy
    obtain ⟨i, hi, hyi⟩ := List.getElem_of_mem hy
    refine ⟨i, hi, exists_at hsplit ?_⟩
    rw [List.getElem?_append_left hi, List.getElem?_eq_getElem hi, hyi]
  obtain ⟨x, hx, rfl⟩ := exists_at hsplit (i := before.length) (y := m) (by simp)
  have hproblems := x.problems_eq_nil (hresolve x (List.mem_of_getElem? hx))
  rcases Modification.noted_of_failure hother
    (hfits _ (List.mem_append_right _ List.mem_cons_self)) hn hfails with
    hnoted | ⟨id, hadds, hthere, hfailure, hrecord⟩
  · exact .inl ⟨_, [], hnoted.warnings, hnoted.further.symm⟩
  · have hnew : x.change.newRoute? = some id := (x.change.newRoute?_resolve _).symm.trans hadds
    refine .inr ⟨id, ⟨x, hx, hnew, ?_⟩, ?_, hfailure⟩
    · show m'.diagnostics.warnings = _
      rw [hrecord, Modification.diagnostics_of_resolve (hresolve x (List.mem_of_getElem? hx))]
    · -- the route was unknown when `x` was resolved, so that it was added since
      rcases horigin id hthere with hold | ⟨y, hy, hy'⟩
      · rw [Change.routeIndex?_of_resolve hproblems hnew] at hold
        cases hold
      · obtain ⟨i, hi, z, hz, rfl⟩ := hearlier y hy
        exact ⟨i, hi, z, hz, (z.change.newRoute?_resolve _).symm.trans hy'⟩

end Scenario

/-- Every report on a modification that failed carries the cause, but for one kind of failure: the
modification adds a route that an earlier one of the same scenario has added.  Of a scenario that comes
without remarks such a report never carries its cause. -/
theorem Scenario.carriesCause_or_repeatsRoute (s : Scenario Modification)
    (config : ApplicationConfig) (baseline : Network) (known : Option ContentHash)
    (ht : baseline.transit.content.WellFormed) {e : ScenarioError}
    (h : (s.apply config baseline known).result = .error e) {report : Report}
    (hreport : report ∈ e.reports) :
    (report.CarriesCause ∨ ∃ id, s.RepeatsRoute report id) ∧
      ((∀ x ∈ s.modifications, x.diagnostics.warnings = []) →
        (report.CarriesCause ↔ ¬∃ id, s.RepeatsRoute report id)) := by
  have hcarries : report.CarriesCause ∨ ∃ id, s.RepeatsRoute report id := by
    cases failsWith_of_result h with
    | mismatched mismatch => exact absurd hreport List.not_mem_nil
    | refused hall hrebuild => exact absurd hreport List.not_mem_nil
    | rejected hreports =>
      obtain ⟨k, x, f, -, hfails, rfl⟩ := (hreports.mem_iff report).1 hreport
      exact .inl (Modification.carriesCause_of_resolve hfails _)
    | stopped hresolve hsplit hbefore hfails =>
      obtain rfl : report = _ := List.mem_singleton.1 hreport
      exact carriesCause_of_stopped ht hresolve hsplit hbefore hfails
  refine ⟨hcarries, fun hfresh => ⟨fun hcarried => ?_, fun hnot => ?_⟩⟩
  · rintro ⟨id, hrepeats⟩
    exact hrepeats.not_carriesCause hfresh hcarried
  · exact hcarries.resolve_right hnot

namespace Sample

/-- A bus that does not stop on its way, twice. -/
def express : Scenario Modification where
  modifications := List.replicate 2
    ⟨.addTrips (.uniform "express" .bus [{ id := "a" }, { id := "d" }] 300 0 [28800]), {}⟩

theorem canonical_express : express.canonical = express := by
  unfold Scenario.canonical canonicalize
  rw [List.mergeSort_of_pairwise (by decide +kernel)]

/-- The report on the second bus, with no remarks. -/
def refusedExpress : Report :=
  ⟨1, "add-trips", none, [], ⟨.refused (.duplicateRoute "express"), 0⟩⟩

theorem apply_express (config : ApplicationConfig) :
    (express.apply config hamlet none).result = .error (.applicationFailed refusedExpress) := by
  have hverified : verifyFeeds express.feeds hamlet.transit.content.feeds =
      .ok (.unverifiable .scenario) := rfl
  have hrevised : express.revised hamlet = .error (.applicationFailed refusedExpress) := by
    decide +kernel
  rw [Scenario.apply_result, hverified, canonical_express]
  simp only [Scenario.applyInOrder_result, hrevised]
  rfl

/-- The first bus is on the road when the second is refused, and nobody records why. -/
theorem express_repeats_route :
    (express.apply {} hamlet none).result = .error (.applicationFailed refusedExpress) ∧
      ¬refusedExpress.CarriesCause ∧ express.RepeatsRoute refusedExpress "express" := by
  have hsilent : ¬refusedExpress.CarriesCause := by
    rintro ⟨earlier, further, hwarnings, -⟩
    exact List.append_ne_nil_of_right_ne_nil _ (List.cons_ne_nil _ _) hwarnings.symm
  have hhamlet : hamlet.transit.content.WellFormed := wellFormed_twoLines.withMembership
  obtain ⟨hcarries, -⟩ := Scenario.carriesCause_or_repeatsRoute express {} hamlet none hhamlet
    (apply_express {}) (List.mem_singleton_self refusedExpress)
  obtain ⟨id, hrepeats⟩ := hcarries.resolve_left hsilent
  have hid : id = "express" := by
    have hfailure := hrepeats.failure
    cases hfailure
    rfl
  exact ⟨apply_express {}, hsilent, hid ▸ hrepeats⟩

end Sample

end Multimodal
