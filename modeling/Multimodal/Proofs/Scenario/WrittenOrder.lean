import Multimodal.Proofs.Scenario.Separation

/-! # How the order in which a scenario is written matters

A scenario is sorted before anything else is done with it, and sorting only keeps the order of
modifications with the same sort order.  So two ways of writing a scenario that agree on these groups
come to the same: nothing after sorting can tell them apart.

* `SameGroups`: two lists that agree on the modifications of every sort order; it can be decided.
* `canonicalize_eq_iff`, `isCanonical_iff`: what sorting depends on, and which lists it leaves alone.
* `SameOutcome`: two applications of which as much comes.
* `written_order_within_groups`: the order within the groups decides everything.
-/

namespace Multimodal

section WrittenOrder

variable {μ : Type} [Modifies μ]

/-! ## Groups of one sort order -/

/-- Both lists have the modifications of every sort order in the same order. -/
def SameGroups (ms ms' : List μ) : Prop :=
  ∀ k : Int, ms.filter (fun m => Modifies.sortOrder m = k) =
    ms'.filter fun m => Modifies.sortOrder m = k

/-- Only the sort orders that occur have to be looked at. -/
theorem sameGroups_iff {ms ms' : List μ} : SameGroups ms ms' ↔ ∀ x ∈ ms ++ ms',
    ms.filter (fun m => Modifies.sortOrder m = (Modifies.sortOrder x : Int)) =
      ms'.filter fun m => Modifies.sortOrder m = (Modifies.sortOrder x : Int) := by
  refine ⟨fun h x _ => h (Modifies.sortOrder x), fun h k => ?_⟩
  by_cases hk : ∃ x ∈ ms ++ ms', Modifies.sortOrder x = k
  · obtain ⟨x, hx, rfl⟩ := hk
    exact h x hx
  · have hnone : ∀ m ∈ ms ++ ms', ¬decide (Modifies.sortOrder m = k) = true :=
      fun m hm hmk => hk ⟨m, hm, of_decide_eq_true hmk⟩
    rw [List.filter_eq_nil_iff.2 fun m hm => hnone m (List.mem_append_left ms' hm),
      List.filter_eq_nil_iff.2 fun m hm => hnone m (List.mem_append_right ms hm)]

instance [DecidableEq μ] (ms ms' : List μ) : Decidable (SameGroups ms ms') :=
  decidable_of_iff' _ sameGroups_iff

theorem canonicalize_eq_iff {ms ms' : List μ} :
    canonicalize ms = canonicalize ms' ↔ SameGroups ms ms' := by
  have hms := stablySorted_canonicalize ms
  have hms' := stablySorted_canonicalize ms'
  constructor
  · intro h k
    rw [← hms.stable k, h, hms'.stable k]
  · intro h
    refine eq_of_ascending hms.ascending hms'.ascending fun k => ?_
    rw [hms.stable k, h k, hms'.stable k]

/-! ## Lists in order -/

theorem isCanonical_iff_pairwise (ms : List μ) :
    isCanonical ms = true ↔ ms.Pairwise fun a b => inOrder a b = true := by
  induction ms with
  | nil => exact iff_of_true rfl List.Pairwise.nil
  | cons a rest ih =>
    cases rest with
    | nil => exact iff_of_true rfl (List.pairwise_singleton _ a)
    | cons b rest =>
      rw [isCanonical, Bool.and_eq_true, ih]
      constructor
      · rintro ⟨hab, hrest⟩
        refine List.pairwise_cons.2 ⟨fun c hc => ?_, hrest⟩
        rcases List.mem_cons.1 hc with rfl | hc
        · exact hab
        · exact inOrder_trans a b c hab ((List.pairwise_cons.1 hrest).1 c hc)
      · intro h
        obtain ⟨hfirst, hrest⟩ := List.pairwise_cons.1 h
        exact ⟨hfirst b List.mem_cons_self, hrest⟩

/-- A list is in order exactly if sorting leaves it as it is. -/
theorem isCanonical_iff (ms : List μ) : isCanonical ms = true ↔ canonicalize ms = ms := by
  rw [isCanonical_iff_pairwise]
  refine ⟨fun h => List.mergeSort_of_pairwise h, fun h => ?_⟩
  rw [← h]
  exact List.pairwise_mergeSort inOrder_trans inOrder_total ms

/-! ## Applications -/

/-- Both rounds and the rebuild look at the modifications and at nothing else of the scenario. -/
theorem Scenario.applyInOrder_of_modifications {s s' : Scenario μ}
    (h : s.modifications = s'.modifications) (config : ApplicationConfig) (baseline : Network) :
    (s.applyInOrder config baseline).1.modifications =
        (s'.applyInOrder config baseline).1.modifications ∧
      (s.applyInOrder config baseline).2 = (s'.applyInOrder config baseline).2 := by
  have hscope : s.scope = s'.scope := by
    unfold scope
    rw [h]
  unfold applyInOrder
  rw [hscope, h]
  rcases hresolved : resolveAll (baseline.scopedCopy s'.scope) 0 s'.modifications with
    ⟨resolved, _ | ⟨report, reports⟩⟩
  · rcases happlied : applyAll (baseline.scopedCopy s'.scope) 0 resolved.modifications with
      ⟨applied, report | n⟩
    · simp only [hresolved, happlied, and_self]
    · simp only [hresolved, happlied]
      cases Network.rebuild s'.scope config.policy n with
      | ok summary n => exact ⟨rfl, rfl⟩
      | error e n => exact ⟨rfl, rfl⟩
  · simp only [hresolved, and_self]

/-- The same comes of an application of either scenario: the result with every report, the calls, and
the modifications as they are afterwards, remarks included.  Only if the feeds do not match, which is
found out before anything is sorted, both scenarios stay as they were written. -/
structure SameOutcome (s s' : Scenario μ) (a a' : Application μ) : Prop where
  result : a.result = a'.result
  calls : a.calls = a'.calls
  left : a.scenario.modifications = a'.scenario.modifications ∨
    a.scenario = s ∧ a'.scenario = s' ∧ ∃ mismatch, a.result = .error (.integrity mismatch)

theorem Scenario.sameOutcome_apply {s s' : Scenario μ} (hfeeds : s.feeds = s'.feeds)
    (hgroups : SameGroups s.modifications s'.modifications) (config : ApplicationConfig)
    (baseline : Network) (known : Option ContentHash) :
    SameOutcome s s' (s.apply config baseline known) (s'.apply config baseline known) := by
  have hsorted : s.canonical.modifications = s'.canonical.modifications :=
    canonicalize_eq_iff.2 hgroups
  obtain ⟨hleft, hrest⟩ := applyInOrder_of_modifications hsorted config baseline
  unfold apply
  rw [hfeeds]
  cases verifyFeeds s'.feeds baseline.transit.content.feeds with
  | error mismatch => exact ⟨rfl, rfl, .inr ⟨rfl, rfl, mismatch, rfl⟩⟩
  | ok feeds =>
    refine ⟨?_, ?_, .inl hleft⟩
    · simp only [hrest]
    · simp only [hrest]

/-- Two lists are sorted alike exactly if they agree on the modifications of every sort order; a sorted
list is ascending; and a list is in order exactly if sorting leaves it as it is.  So two scenarios with
the same feeds that are written in such a way come to the same on every baseline. -/
theorem written_order_within_groups :
    (∀ ms ms' : List μ, canonicalize ms = canonicalize ms' ↔ SameGroups ms ms') ∧
    (∀ ms : List μ, (canonicalize ms).Pairwise
      fun a b => Modifies.sortOrder a ≤ Modifies.sortOrder b) ∧
    (∀ ms : List μ, isCanonical ms = true ↔ canonicalize ms = ms) ∧
    ∀ s s' : Scenario μ, s.feeds = s'.feeds → SameGroups s.modifications s'.modifications →
      ∀ (config : ApplicationConfig) (baseline : Network) (known : Option ContentHash),
        SameOutcome s s' (s.apply config baseline known) (s'.apply config baseline known) :=
  ⟨fun _ _ => canonicalize_eq_iff, fun ms => (stablySorted_canonicalize ms).ascending,
    isCanonical_iff, fun _ _ hfeeds hgroups config baseline known =>
      Scenario.sameOutcome_apply hfeeds hgroups config baseline known⟩

end WrittenOrder

namespace Sample

/-- Slower buses, and a speed that is none, with a removal between them that belongs before both. -/
def lateStart : Scenario Modification where
  id := some "late start"
  modifications :=
    [⟨.adjustSpeed { routes := ["r1"], scale := 0.5 }, { comment := some "first" }⟩,
      ⟨.removeTrips { trips := ["r1-0800"] }, {}⟩,
      ⟨.adjustSpeed { routes := ["r2"], scale := 0.0 }, { comment := some "second" }⟩]
  feeds := .ofList [("gtfs1", 100)]

/-- The same without a name and with the removal in its place. -/
def lateStartSorted : Scenario Modification where
  modifications :=
    [⟨.removeTrips { trips := ["r1-0800"] }, {}⟩,
      ⟨.adjustSpeed { routes := ["r1"], scale := 0.5 }, { comment := some "first" }⟩,
      ⟨.adjustSpeed { routes := ["r2"], scale := 0.0 }, { comment := some "second" }⟩]
  feeds := .ofList [("gtfs1", 100)]

/-- The report on the bad speed. -/
def badSpeedReport : Report :=
  ⟨2, "adjust-speed", some "second", [.badScale 0.0], ⟨.badScale 0.0, 0⟩⟩

theorem apply_lateStartSorted :
    (lateStartSorted.apply {} town none).result = .error (.invalid [badSpeedReport]) := by
  have hverified : verifyFeeds lateStartSorted.feeds town.transit.content.feeds = .ok .verified := by
    decide +kernel
  have hcanonical : lateStartSorted.canonical = lateStartSorted := by
    unfold Scenario.canonical
    rw [(isCanonical_iff _).1 (by decide +kernel)]
  have hrevised : lateStartSorted.revised town = .error (.invalid [badSpeedReport]) := by
    decide +kernel
  rw [Scenario.apply_result, hverified, hcanonical]
  simp only [Scenario.applyInOrder_result, hrevised]
  rfl

/-- Although one list is not in order, the report on the bad speed has the same position. -/
theorem sameOutcome_lateStart :
    lateStart.feeds = lateStartSorted.feeds ∧
      SameGroups lateStart.modifications lateStartSorted.modifications ∧
      SameOutcome lateStart lateStartSorted (lateStart.apply {} town none)
        (lateStartSorted.apply {} town none) ∧
      isCanonical lateStart.modifications = false ∧
      (lateStart.apply {} town none).result = .error (.invalid [badSpeedReport]) := by
  have hgroups : SameGroups lateStart.modifications lateStartSorted.modifications := by
    decide +kernel
  have hsame := written_order_within_groups.2.2.2 lateStart lateStartSorted rfl hgroups {} town none
  exact ⟨rfl, hgroups, hsame, by decide +kernel, hsame.result.trans apply_lateStartSorted⟩

end Sample

end Multimodal
