import Multimodal.Proofs.Network.Rebuild
import Multimodal.Scenario.Application

/-! # What the rounds of an application leave

An application looks at the rebuild policy only after both rounds over the modifications.  What the
rounds leave is therefore told apart from the rebuild: an error, or a revised copy of the baseline.

* `Scenario.revised`: the copy after both rounds.
* `applyInOrder_result`, `apply_result`: an application is the rounds and then the rebuild.
* `revised_of_applied`: the copy after both rounds revises the baseline.
* `Scenario.applied_of_result`: a successful application ends in a rebuild of that copy.
-/

namespace Multimodal

section Rounds

variable {μ : Type} [Modifies μ]

/-- The copy of the baseline after both rounds, or the error that ends them. -/
def Scenario.revised (s : Scenario μ) (baseline : Network) : Except ScenarioError Network :=
  let copy := baseline.scopedCopy s.scope
  match resolveAll copy 0 s.modifications with
  | (_, report :: reports) => .error (.invalid (report :: reports))
  | (resolved, []) =>
    match (applyAll copy 0 resolved.modifications).2 with
    | .error report => .error (.applicationFailed report)
    | .ok n => .ok n

/-- The rounds in order, and then the rebuild. -/
theorem Scenario.applyInOrder_result (s : Scenario μ) (config : ApplicationConfig)
    (baseline : Network) :
    (s.applyInOrder config baseline).2.2 =
      match s.revised baseline with
      | .error e => .error e
      | .ok n =>
        match Network.rebuild s.scope config.policy n with
        | .error e _ => .error (.rebuild e)
        | .ok summary n => .ok (n, summary) := by
  unfold applyInOrder revised
  rcases hresolved : resolveAll (baseline.scopedCopy s.scope) 0 s.modifications with
    ⟨resolved, _ | ⟨report, reports⟩⟩
  · rcases happlied : applyAll (baseline.scopedCopy s.scope) 0 resolved.modifications with
      ⟨applied, report | n⟩
    · simp only [hresolved, happlied]
    · simp only [hresolved, happlied]
      cases Network.rebuild s.scope config.policy n with
      | ok summary n => rfl
      | error e n => rfl
  · simp only [hresolved]

/-- A whole application: the feeds are compared, then the rounds and the rebuild follow. -/
theorem Scenario.apply_result (s : Scenario μ) (config : ApplicationConfig) (baseline : Network)
    (known : Option ContentHash) :
    (s.apply config baseline known).result =
      match verifyFeeds s.feeds baseline.transit.content.feeds with
      | .error mismatch => .error (.integrity mismatch)
      | .ok feeds => (s.canonical.applyInOrder config baseline).2.2.map fun (network, rebuild) =>
          { network, feeds, rebuild, baseline := checkBaseline config known baseline } := by
  unfold apply
  cases verifyFeeds s.feeds baseline.transit.content.feeds with
  | error mismatch => rfl
  | ok feeds => rfl

/-- A successful application ends in a rebuild of the copy after both rounds. -/
theorem Scenario.rebuild_of_result {s : Scenario μ} {config : ApplicationConfig}
    {baseline : Network} {known : Option ContentHash} {applied : Applied}
    (h : (s.apply config baseline known).result = .ok applied) :
    ∃ n, s.canonical.revised baseline = .ok n ∧
      Network.rebuild s.canonical.scope config.policy n =
        .ok applied.rebuild applied.network := by
  rw [apply_result] at h
  cases hfeeds : verifyFeeds s.feeds baseline.transit.content.feeds with
  | error mismatch =>
    rw [hfeeds] at h
    cases h
  | ok feeds =>
    rw [hfeeds, applyInOrder_result] at h
    cases hrevised : s.canonical.revised baseline with
    | error e =>
      rw [hrevised] at h
      cases h
    | ok n =>
      simp only [hrevised] at h
      cases hrebuild : Network.rebuild s.canonical.scope config.policy n with
      | error e m =>
        rw [hrebuild] at h
        cases h
      | ok summary m =>
        rw [hrebuild] at h
        cases h
        exact ⟨n, rfl, hrebuild⟩

end Rounds

/-! ## Built-in modifications -/

/-- Applying built-in modifications in order reaches a network with every stable property. -/
theorem reached_applyAll {S : StreetLayer → Prop} {T : TransitLayer → Prop}
    (hS : StreetLayer.Stable S) (hT : TransitLayer.Stable T) {ms : List Modification}
    {n₀ n n' : Network} {i : Nat} (h : Network.Reached S T n₀ n)
    (happlied : (applyAll n i ms).2 = .ok n') : Network.Reached S T n₀ n' := by
  induction ms generalizing n i with
  | nil =>
    cases happlied
    exact h
  | cons m ms ih =>
    have hm := h.apply hS hT m
    unfold applyAll at happlied
    rcases hx : m.apply n with ⟨m', n₁, failure | ⟨⟩⟩
    · have hx' : Modifies.apply m n = (m', n₁, .error failure) := hx
      rw [hx'] at happlied
      cases happlied
    · have hx' : Modifies.apply m n = (m', n₁, .ok ()) := hx
      rw [hx'] at happlied
      rw [hx] at hm
      exact ih hm happlied

theorem stable_extends (t₀ : TransitLayer) :
    TransitLayer.Stable fun t => Extends t.stops t₀.stops where
  stop _ stop h := h.push stop
  route _ _ h := h
  patterns _ _ _ h := h

/-- The rounds leave a copy with every stable property that the copy had before. -/
theorem reached_of_revised {S : StreetLayer → Prop} {T : TransitLayer → Prop}
    (hS : StreetLayer.Stable S) (hT : TransitLayer.Stable T) {s : Scenario Modification}
    {baseline n : Network} (hstreet : S (baseline.scopedCopy s.scope).street.content)
    (htransit : T (baseline.scopedCopy s.scope).transit.content)
    (h : s.revised baseline = .ok n) : Network.Reached S T (baseline.scopedCopy s.scope) n := by
  unfold Scenario.revised at h
  rcases hresolved : resolveAll (baseline.scopedCopy s.scope) 0 s.modifications with
    ⟨resolved, _ | ⟨report, reports⟩⟩
  · simp only [hresolved] at h
    cases happlied : (applyAll (baseline.scopedCopy s.scope) 0 resolved.modifications).2 with
    | error report =>
      rw [happlied] at h
      cases h
    | ok n' =>
      rw [happlied] at h
      cases h
      exact reached_applyAll hS hT (Network.Reached.start hstreet htransit) happlied
  · simp only [hresolved] at h
    cases h

theorem revised_of_applied {s : Scenario Modification} {baseline n : Network}
    (h : s.revised baseline = .ok n) : Network.Revised baseline s.scope n := by
  have hstart := Network.revised_scopedCopy baseline s.scope
  exact reached_of_revised (StreetLayer.stable_continues _) (stable_extends _) hstart.streets
    hstart.timetable h

/-- The rounds leave streets with every stable property that does not look at what is noted as
touched. -/
theorem stable_of_applied {S : StreetLayer → Prop} (hS : StreetLayer.Stable S)
    (hforget : ∀ s, S s → S s.forgetChanges) {s : Scenario Modification} {baseline n : Network}
    (hbaseline : S baseline.street.content) (h : s.revised baseline = .ok n) :
    S n.street.content := by
  have hstart : S (baseline.scopedCopy s.scope).street.content := by
    unfold Network.scopedCopy
    split
    · exact hforget _ hbaseline
    · exact hbaseline
  exact (reached_of_revised hS (stable_extends baseline.transit.content) hstart
    (Extends.refl _) h).streets

theorem aligned_of_applied {s : Scenario Modification} {baseline n : Network}
    (haligned : baseline.street.content.Aligned) (h : s.revised baseline = .ok n) :
    n.street.content.Aligned :=
  stable_of_applied StreetLayer.stable_aligned (fun _ hs => hs) haligned h

/-- After rounds that succeed the rebuild succeeds under either policy. -/
theorem Scenario.applyInOrder_of_revised {s : Scenario Modification} {baseline n : Network}
    (h : s.revised baseline = .ok n) (config : ApplicationConfig) :
    ∃ summary : RebuildSummary, summary.region = n.rebuildRegion? s.scope ∧
      (s.applyInOrder config baseline).2.2 = .ok (n.rebuilt s.scope config.policy, summary) := by
  have hwritable := (revised_of_applied h).becomes.writable
    (Network.writable_scopedCopy baseline s.scope)
  obtain ⟨summary, hregion, hrebuild⟩ := Network.rebuild_apply hwritable config.policy
  refine ⟨summary, hregion, ?_⟩
  rw [applyInOrder_result, h]
  simp only [hrebuild]

/-- A successful application leaves what a rebuild makes of the revised copy. -/
theorem Scenario.applied_of_result {s : Scenario Modification} {config : ApplicationConfig}
    {baseline : Network} {known : Option ContentHash} {applied : Applied}
    (h : (s.apply config baseline known).result = .ok applied) :
    ∃ n, s.canonical.revised baseline = .ok n ∧
      applied.network = n.rebuilt s.canonical.scope config.policy ∧
      applied.rebuild.region = n.rebuildRegion? s.canonical.scope := by
  obtain ⟨n, hrevised, hrebuild⟩ := rebuild_of_result h
  have hwritable := (revised_of_applied hrevised).becomes.writable
    (Network.writable_scopedCopy baseline s.canonical.scope)
  obtain ⟨summary, hregion, hok⟩ := Network.rebuild_apply hwritable config.policy
  obtain ⟨hsummary, hnetwork⟩ := EStateM.Result.ok.inj (hrebuild.symm.trans hok)
  refine ⟨n, hrevised, hnetwork, ?_⟩
  rw [hsummary]
  exact hregion

end Multimodal
