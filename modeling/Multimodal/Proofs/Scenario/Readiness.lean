import Multimodal.Proofs.Modification.Readiness
import Multimodal.Proofs.Scenario.Separation

/-! # Modifications of the streets do not fail to apply

All modifications are resolved against the copy as it came and applied in the order of their kinds.
Whatever a modification of the streets found in the copy, those before it leave it where it is; so an
application that stops stops at a modification of the timetable.

* `Scenario.FailsWith`: the ways in which an application fails.
* `Applies.ready`: what a run leaves on offer.
* `Scenario.streets_do_not_fail`: no modification of the streets fails to apply.
-/

namespace Multimodal

/-! ## How an application fails -/

/-- An application fails because the feeds differ, because some modifications do not resolve, because one
cannot be applied after those before it were, or because the rebuild is refused. -/
inductive Scenario.FailsWith {μ : Type} [Modifies μ] (s : Scenario μ) (policy : RebuildPolicy)
    (baseline : Network) : ScenarioError → Prop
  | mismatched (mismatch : FeedMismatch) : FailsWith s policy baseline (.integrity mismatch)
  | rejected {reports : List Report}
      (hreports : ReportsOn (baseline.scopedCopy s.canonical.scope) 0 s.canonical.modifications
        reports) :
      FailsWith s policy baseline (.invalid reports)
  | stopped {before before' rest : List μ} {m m' : μ} {n n' : Network} {f : StepFailure}
      (hresolve : ∀ x ∈ s.canonical.modifications,
        (Modifies.resolve x (baseline.scopedCopy s.canonical.scope)).2 = .ok ())
      (hsplit : s.canonical.modifications.map
        (resolvedBy (baseline.scopedCopy s.canonical.scope)) = before ++ m :: rest)
      (hbefore : Applies (baseline.scopedCopy s.canonical.scope) before before' n)
      (hfails : Modifies.apply m n = (m', n', .error f)) :
      FailsWith s policy baseline (.applicationFailed (.capture before.length m' f))
  | refused {ms' : List μ} {n n' : Network} {refusal : NetworkError}
      (hall : Applies (baseline.scopedCopy s.canonical.scope)
        (s.canonical.modifications.map (resolvedBy (baseline.scopedCopy s.canonical.scope))) ms' n)
      (hrebuild : Network.rebuild s.canonical.scope policy n = .error refusal n') :
      FailsWith s policy baseline (.rebuild refusal)

theorem Scenario.failsWith_of_result {μ : Type} [Modifies μ] {s : Scenario μ}
    {config : ApplicationConfig} {baseline : Network} {known : Option ContentHash}
    {e : ScenarioError} (h : (s.apply config baseline known).result = .error e) :
    s.FailsWith config.policy baseline e := by
  cases hfeeds : verifyFeeds s.feeds baseline.transit.content.feeds with
  | error mismatch =>
    rw [apply_result, hfeeds] at h
    cases h
    exact .mismatched mismatch
  | ok feeds =>
    have hcourse := s.course_canonical config baseline known hfeeds
    generalize s.apply config baseline known = application at h hcourse
    cases hcourse with
    | rejected reports hreports hsome =>
      cases h
      exact .rejected hreports
    | stopped hresolve hsplit hbefore hfails =>
      cases h
      exact .stopped hresolve hsplit hbefore hfails
    | @completed ms' n hresolve hall =>
      have hfinish : s.canonical.finish config baseline known feeds n = .error e := h
      unfold finish at hfinish
      cases hrebuild : Network.rebuild s.canonical.scope config.policy n with
      | error refusal m =>
        rw [hrebuild] at hfinish
        cases hfinish
        exact .refused hall hrebuild
      | ok summary m =>
        rw [hrebuild] at hfinish
        cases hfinish

/-! ## What a run leaves on offer -/

variable {first : StreetLayer} {early : Prop} {n : Network}

theorem Modification.ready_of_apply {x x' : Modification} {n' : Network}
    (hfound : x.change.FoundIn first) (hearly : early → x.change.sortOrder ≤ 10)
    (h : n.ReadyFor first early) (happly : x.apply n = (x', n', .ok ())) :
    n'.ReadyFor first early :=
  (x.change.ensures_ready hfound hearly).of_apply_ok h happly

/-- A modification that fails although what it found is on offer is none of the streets. -/
theorem Modification.timetable_of_failure {x x' : Modification} {n' : Network} {f : StepFailure}
    (hfound : x.change.FoundIn first) (h : n.ReadyFor first (x.change.sortOrder ≤ 10))
    (happly : x.apply n = (x', n', .error f)) : x.change.isStreet = false := by
  have hlate := (x.change.ensures_ready hfound id).of_apply_error h happly
  cases hstreet : x.change.isStreet with
  | false => rfl
  | true => exact absurd (hlate hstreet).1 (hlate hstreet).2

theorem Applies.ready {xs xs' : List Modification} {n' : Network} (h : Applies n xs xs' n')
    (hfound : ∀ x ∈ xs, x.change.FoundIn first)
    (hearly : early → ∀ x ∈ xs, x.change.sortOrder ≤ 10) (hn : n.ReadyFor first early) :
    n'.ReadyFor first early := by
  induction h with
  | nil n => exact hn
  | cons hfirst _ ih =>
    have hnext := Modification.ready_of_apply (hfound _ List.mem_cons_self)
      (fun he => hearly he _ List.mem_cons_self) hn hfirst
    exact ih (fun x hx => hfound x (List.mem_cons_of_mem _ hx))
      (fun he x hx => hearly he x (List.mem_cons_of_mem _ hx)) hnext

/-! ## Whole applications -/

theorem Modification.foundIn_resolvedBy {x : Modification}
    (h : (Modifies.resolve x n).2 = .ok ()) :
    (resolvedBy n x).change.FoundIn n.street.content :=
  x.change.foundIn_resolve n (x.problems_eq_nil h)

theorem Modification.change_apply (x : Modification) (n : Network) :
    (x.apply n).1.change = x.change := by
  unfold apply
  cases x.change.apply ⟨n, x.diagnostics⟩ with
  | ok a w => rfl
  | error f w => rfl

/-- The names of the kinds that change the streets. -/
def Change.streetNames : List String := ["modify-streets", "remove-streets", "add-streets"]

theorem Change.typeName_mem_streetNames (c : Change) :
    c.typeName ∈ streetNames ↔ c.isStreet = true := by
  cases c <;> simp [typeName, streetNames, isStreet]

namespace Scenario

variable {s : Scenario Modification} {config : ApplicationConfig} {baseline : Network}
  {known : Option ContentHash}

theorem scope_eq (s : Scenario Modification) :
    s.scope = ⟨s.modifications.any fun x => x.change.isStreet,
      s.modifications.any fun x => !x.change.isStreet⟩ := by
  have hscope : ∀ x : Modification, Modifies.scope x = ⟨x.change.isStreet, !x.change.isStreet⟩ :=
    fun x => x.change.scope_eq
  simp only [scope, hscope]

/-- What the second round comes to was of the same layer before it was resolved. -/
theorem exists_of_split {s : Scenario Modification} {copy : Network}
    {before rest : List Modification} {m : Modification}
    (hsplit : s.canonical.modifications.map (resolvedBy copy) = before ++ m :: rest) :
    ∃ x ∈ s.modifications, x.change.isStreet = m.change.isStreet := by
  have hm : m ∈ s.canonical.modifications.map (resolvedBy copy) := by
    rw [hsplit]
    exact List.mem_append_right _ List.mem_cons_self
  obtain ⟨x, hx, rfl⟩ := List.mem_map.1 hm
  exact ⟨x, (stablySorted_canonicalize s.modifications).perm.mem_iff.1 hx,
    (x.isStreet_resolve copy).symm⟩

theorem transit_in_scope {s : Scenario Modification} {copy : Network}
    {before rest : List Modification} {m : Modification}
    (hsplit : s.canonical.modifications.map (resolvedBy copy) = before ++ m :: rest)
    (hm : m.change.isStreet = false) : s.canonical.scope.transit = true := by
  obtain ⟨x, hx, hsame⟩ := exists_of_split hsplit
  rw [s.scope_canonical, s.scope_eq]
  exact List.any_eq_true.2 ⟨x, hx, by rw [hsame, hm]; rfl⟩

/-- What has a place in the second round has the same place in the order of application. -/
theorem exists_at {s : Scenario Modification} {copy : Network} {ys : List Modification}
    (h : s.canonical.modifications.map (resolvedBy copy) = ys) {i : Nat} {y : Modification}
    (hy : ys[i]? = some y) :
    ∃ x, s.canonical.modifications[i]? = some x ∧ resolvedBy copy x = y := by
  rw [← h, List.getElem?_map] at hy
  exact Option.map_eq_some_iff.1 hy

/-- A modification that fails after all have resolved, and those before it were applied, is none of
the streets. -/
theorem timetable_of_stopped (s : Scenario Modification) (baseline : Network)
    {before before' rest : List Modification} {m m' : Modification} {f : StepFailure}
    {n' : Network}
    (hresolves : ∀ x ∈ s.canonical.modifications,
      (Modifies.resolve x (baseline.scopedCopy s.canonical.scope)).2 = .ok ())
    (hsplit : s.canonical.modifications.map
      (resolvedBy (baseline.scopedCopy s.canonical.scope)) = before ++ m :: rest)
    (hbefore : Applies (baseline.scopedCopy s.canonical.scope) before before' n)
    (hfails : m.apply n = (m', n', .error f)) : m.change.isStreet = false := by
  have hfound : ∀ y ∈ before ++ m :: rest,
      y.change.FoundIn (baseline.scopedCopy s.canonical.scope).street.content := by
    intro y hy
    rw [← hsplit] at hy
    obtain ⟨z, hz, rfl⟩ := List.mem_map.1 hy
    exact Modification.foundIn_resolvedBy (hresolves z hz)
  have hsorted : (before ++ m :: rest).Pairwise
      fun a b : Modification => a.change.sortOrder ≤ b.change.sortOrder := by
    have horder : ∀ z : Modification,
        (resolvedBy (baseline.scopedCopy s.canonical.scope) z).change.sortOrder =
          z.change.sortOrder := fun z => (z.change.resolve_kind _).2
    rw [← hsplit, List.pairwise_map]
    simp only [horder]
    exact (stablySorted_canonicalize s.modifications).ascending
  have hle := fun y hy => (List.pairwise_append.1 hsorted).2.2 y hy m List.mem_cons_self
  rw [← Bool.not_eq_true]
  intro hstreet
  -- `m` comes early exactly if all before it do, since they have no higher order
  have hstart : (baseline.scopedCopy s.canonical.scope).ReadyFor
      (baseline.scopedCopy s.canonical.scope).street.content (m.change.sortOrder ≤ 10) := by
    have hscope : s.canonical.scope.street = true := by
      obtain ⟨x, hx, hsame⟩ := exists_of_split hsplit
      rw [s.scope_canonical, s.scope_eq]
      exact List.any_eq_true.2 ⟨x, hx, hsame.trans hstreet⟩
    exact ⟨(Network.writable_scopedCopy baseline s.canonical.scope).street hscope,
      StreetLayer.Offers.refl _ _⟩
  have hready := hbefore.ready (fun y hy => hfound y (List.mem_append_left _ hy))
    (fun hearly y hy => Int.le_trans (hle y hy) hearly) hstart
  have hother := Modification.timetable_of_failure
    (hfound m (List.mem_append_right _ List.mem_cons_self)) hready hfails
  rw [hother] at hstreet
  cases hstreet

/-- Modifications of the streets that all resolve can all be applied. -/
theorem exists_revised_of_streets (hstreets : ∀ x ∈ s.modifications, x.change.isStreet = true)
    (hresolves : ∀ x ∈ s.canonical.modifications,
      (Modifies.resolve x (baseline.scopedCopy s.canonical.scope)).2 = .ok ()) :
    ∃ n, s.canonical.revised baseline = .ok n := by
  rcases applyAll_cases (baseline.scopedCopy s.canonical.scope) 0
    (s.canonical.modifications.map (resolvedBy (baseline.scopedCopy s.canonical.scope))) with
    ⟨ms', n, hall, -⟩ | ⟨before, before', m, m', rest, n, n', f, hsplit, hbefore, hfails, -⟩
  · exact ⟨n, revised_eq_ok.2 ⟨hresolves, ms', hall⟩⟩
  · have hother := s.timetable_of_stopped baseline hresolves hsplit hbefore hfails
    obtain ⟨x, hx, hsame⟩ := exists_of_split hsplit
    rw [hstreets x hx, hother] at hsame
    cases hsame

/-- An application stops at a modification of the timetable. -/
theorem stopped_at_timetable {report : Report}
    (h : (s.apply config baseline known).result = .error (.applicationFailed report)) :
    ∃ x, s.canonical.modifications[report.position]? = some x ∧ x.change.isStreet = false ∧
      report.typeName = x.change.typeName := by
  cases failsWith_of_result h with
  | @stopped before before' rest m m' n n' f hresolve hsplit hbefore hfails =>
  have hfails' : m.apply n = (m', n', .error f) := hfails
  have hother := s.timetable_of_stopped baseline hresolve hsplit hbefore hfails'
  -- the modification at fault, as it was before it was resolved
  obtain ⟨x, hx, rfl⟩ := exists_at hsplit (i := before.length) (y := m) (by simp)
  refine ⟨x, hx, (x.isStreet_resolve _).symm.trans hother, ?_⟩
  have hkept := (resolvedBy (baseline.scopedCopy s.canonical.scope) x).change_apply n
  rw [hfails'] at hkept
  have hname : m'.change.typeName = _ := congrArg Change.typeName hkept
  exact hname.trans (x.change.resolve_kind _).1

end Scenario

/-- No modification of the streets fails to apply.  If all modifications resolve and one fails to apply,
that is one of the timetable; and if all are of the streets and resolve, the application succeeds, in
whatever order they were written and however they overlap. -/
theorem Scenario.streets_do_not_fail (s : Scenario Modification) (config : ApplicationConfig)
    (baseline : Network) (known : Option ContentHash) :
    (∀ report, (s.apply config baseline known).result = .error (.applicationFailed report) →
      report.typeName ∉ Change.streetNames ∧
        ∃ x, s.canonical.modifications[report.position]? = some x ∧ x.change.isStreet = false ∧
          report.typeName = x.change.typeName) ∧
      ((∀ x ∈ s.modifications, x.change.isStreet = true) →
        (∃ feeds, verifyFeeds s.feeds baseline.transit.content.feeds = .ok feeds) →
        (∀ x ∈ s.modifications, (x.resolve (baseline.scopedCopy s.scope)).2 = .ok ()) →
          ∃ applied, (s.apply config baseline known).result = .ok applied) := by
  constructor
  · intro report h
    obtain ⟨x, hx, hother, hname⟩ := stopped_at_timetable h
    refine ⟨?_, x, hx, hother, hname⟩
    rw [hname, x.change.typeName_mem_streetNames, hother]
    exact Bool.false_ne_true
  · intro hstreets hfeeds hresolves
    refine (s.succeeds_iff config baseline known).2 ⟨hfeeds, ?_⟩
    refine exists_revised_of_streets hstreets fun x hx => ?_
    rw [s.scope_canonical]
    exact hresolves x ((stablySorted_canonicalize s.modifications).perm.mem_iff.1 hx)

namespace Sample

/-- The street of the hamlet is closed and slowed down, written in this order. -/
def roadworks : Scenario Modification where
  modifications := [⟨.removeStreets { envelope := ⟨45.0, 7.0, 45.001, 7.001⟩ }, {}⟩,
    ⟨.modifyStreets { envelope := ⟨44.0, 6.0, 46.0, 8.0⟩, speedFactor := some 0.5 }, {}⟩]

/-- The new line laid twice. -/
def doubled : Scenario Modification where
  modifications := shuttle.modifications ++ shuttle.modifications

theorem canonical_doubled : doubled.canonical = doubled := by
  unfold Scenario.canonical canonicalize
  rw [List.mergeSort_of_pairwise (by decide)]

/-- The second line finds its stop taken. -/
theorem apply_doubled :
    ∃ report, (doubled.apply {} hamlet none).result = .error (.applicationFailed report) := by
  have hphase : ((doubled.revised hamlet).mapError ScenarioError.phase).map (fun _ => ()) =
      .error .apply := by decide +kernel
  rw [Scenario.apply_result, Scenario.applyInOrder_result, canonical_doubled]
  rcases hrevised : doubled.revised hamlet with e | n
  · rw [hrevised] at hphase
    cases e with
    | applicationFailed report => exact ⟨report, rfl⟩
    | integrity _ | invalid _ | rebuild _ => cases hphase
  · rw [hrevised] at hphase
    cases hphase

/-- The roadworks go through although the slowed street is closed, and of two lines that are the same
the second is at fault. -/
theorem roadworks_succeed :
    (∃ applied, (roadworks.apply {} hamlet none).result = .ok applied) ∧
      ∃ report, (doubled.apply {} hamlet none).result = .error (.applicationFailed report) ∧
        report.typeName ∉ Change.streetNames := by
  constructor
  · refine (roadworks.streets_do_not_fail {} hamlet none).2 ?_ ⟨.unverifiable .scenario, rfl⟩ ?_
    · decide
    · decide +kernel
  · obtain ⟨report, hreport⟩ := apply_doubled
    exact ⟨report, hreport, ((doubled.streets_do_not_fail {} hamlet none).1 report hreport).1⟩

end Sample

end Multimodal
