import Multimodal.Proofs.Scenario.Rounds
import Multimodal.Proofs.Street.Degrees

/-! # Both rebuild policies agree

Rebuilding only what a change concerns leaves the same network as rebuilding everything.  The rounds
of an application do not look at the policy, the edge lists and the membership lists are built alike,
and there is one accurate linkage only.

* `linked_rebuilt`: the linkage after the rebuild of an application is accurate.
* `Scenario.scoped_agrees_with_full`: the same error, or the same network.
* `Sample.shuttle`, `Sample.closure`: a new line, and a street closed.
* `Sample.detour_policies_agree`: both together under both policies.
-/

namespace Multimodal

/-- Whatever the policy, the rebuild after the rounds leaves an accurate linkage. -/
theorem linked_rebuilt {s : Scenario Modification} {baseline n : Network}
    (hbaseline : baseline.Linked) (haligned : baseline.street.content.Aligned)
    (h : s.revised baseline = .ok n)
    (hcovers : ∀ area, n.rebuildRegion? s.scope = some area → n.RegionCovers area)
    (policy : RebuildPolicy) : (n.rebuilt s.scope policy).Linked := by
  have hrevised := revised_of_applied h
  by_cases hscope : s.scope.isEmpty = true
  · exact Network.linked_rebuilt_empty hbaseline hrevised hscope
  · rw [Bool.not_eq_true] at hscope
    cases policy with
    | full => exact Network.linked_rebuilt_full n hscope
    | «scoped» => exact Network.linked_rebuilt_scoped hbaseline haligned hrevised hcovers hscope

theorem shared_linkage_rebuilt {n : Network} {scope : LayerScope} {policy : RebuildPolicy}
    (h : n.Writable scope) : (n.rebuilt scope policy).linkage.shared = n.linkage.shared := by
  unfold Network.rebuilt
  cases hscope : scope.isEmpty with
  | true => rfl
  | false =>
    cases policy.selection? scope (n.rebuildRegion? scope) with
    | none => rfl
    | some selection => exact (h.linkage hscope).symm

/-- If both policies leave accurate linkages, they leave the same network. -/
theorem rebuilt_policies {n : Network} {scope : LayerScope} (h : n.Writable scope)
    (hscoped : (n.rebuilt scope .scoped).Linked) (hfull : (n.rebuilt scope .full).Linked) :
    n.rebuilt scope .scoped = n.rebuilt scope .full := by
  obtain ⟨hstreet, htransit, hparams⟩ := Network.rebuilt_layers n scope .scoped
  obtain ⟨hstreet', htransit', hparams'⟩ := Network.rebuilt_layers n scope .full
  have hshared : (n.rebuilt scope .scoped).linkage.shared =
      (n.rebuilt scope .full).linkage.shared := by
    rw [shared_linkage_rebuilt h, shared_linkage_rebuilt h]
  unfold Network.Linked at hscoped hfull
  rw [hstreet, htransit, hparams] at hscoped
  rw [hstreet', htransit', hparams'] at hfull
  have hcontent := hscoped.unique hfull
  revert hstreet htransit hparams hstreet' htransit' hparams' hshared hcontent
  rcases n.rebuilt scope .scoped with ⟨street, transit, ⟨linkage, shared⟩, params⟩
  rcases n.rebuilt scope .full with ⟨street', transit', ⟨linkage', shared'⟩, params'⟩
  rintro rfl rfl rfl rfl rfl rfl rfl rfl
  rfl

/-- A rebuild leaves the streets but for their edge lists. -/
theorem stable_rebuilt {S : StreetLayer → Prop} (hlists : ∀ s, S s → S s.withEdgeLists) {n : Network}
    (h : S n.street.content) (scope : LayerScope) (policy : RebuildPolicy) :
    S (n.rebuilt scope policy).street.content := by
  obtain ⟨hstreet, -, -⟩ := Network.rebuilt_layers n scope policy
  rw [hstreet]
  unfold Network.withLists
  cases scope.street with
  | true => exact hlists _ h
  | false => exact h

/-- A rebuild leaves the timetable but for its membership lists. -/
theorem timetable_rebuilt {T : TransitLayer → Prop} (hlists : ∀ t, T t → T t.withMembership)
    {n : Network} (h : T n.transit.content) (scope : LayerScope) (policy : RebuildPolicy) :
    T (n.rebuilt scope policy).transit.content := by
  obtain ⟨-, htransit, -⟩ := Network.rebuilt_layers n scope policy
  rw [htransit]
  unfold Network.withLists
  cases scope.transit with
  | true => exact hlists _ h
  | false => exact h

theorem aligned_rebuilt {n : Network} {scope : LayerScope} {policy : RebuildPolicy}
    (h : n.street.content.Aligned) : (n.rebuilt scope policy).street.content.Aligned :=
  stable_rebuilt (fun _ hs => hs) h scope policy

/-- Applying a scenario under the scoped policy and under the full one ends in the same error or in
the same network: the same layers with the same edge lists and membership lists, and the same link,
tree and transfers of every stop.  That network is again up to date. -/
theorem Scenario.scoped_agrees_with_full (s : Scenario Modification) (config : ApplicationConfig)
    (baseline : Network) (known : Option ContentHash) (hbaseline : baseline.UpToDate)
    (haligned : baseline.street.content.Aligned)
    (hcovers : ∀ applied,
      (s.apply { config with policy := .scoped } baseline known).result = .ok applied →
        ∀ area, applied.rebuild.region = some area → applied.network.RegionCovers area) :
    match (s.apply { config with policy := .scoped } baseline known).result,
      (s.apply { config with policy := .full } baseline known).result with
    | .error e, .error e' => e = e'
    | .ok a, .ok b =>
      a.network = b.network ∧ a.network.checksum = b.network.checksum ∧ a.network.UpToDate ∧
        a.network.street.content.Aligned
    | _, _ => False := by
  rw [apply_result] at hcovers
  rw [apply_result, apply_result]
  cases hfeeds : verifyFeeds s.feeds baseline.transit.content.feeds with
  | error mismatch => rfl
  | ok feeds =>
    rw [hfeeds] at hcovers
    cases hrevised : s.canonical.revised baseline with
    | error e =>
      rw [applyInOrder_result, applyInOrder_result, hrevised]
      rfl
    | ok n =>
      obtain ⟨some₁, hregion, hscoped⟩ :=
        applyInOrder_of_revised hrevised { config with policy := .scoped }
      obtain ⟨some₂, -, hfull⟩ :=
        applyInOrder_of_revised hrevised { config with policy := .full }
      rw [hscoped] at hcovers
      rw [hscoped, hfull]
      have hreach : ∀ area, n.rebuildRegion? s.canonical.scope = some area →
          n.RegionCovers area := by
        intro area harea
        exact Network.regionCovers_rebuilt.1 (hcovers _ rfl area (hregion.trans harea))
      have hlinked := linked_rebuilt hbaseline.linked haligned hrevised hreach
      have hrev := revised_of_applied hrevised
      have hwritable := hrev.becomes.writable
        (Network.writable_scopedCopy baseline s.canonical.scope)
      have hnetwork : n.rebuilt s.canonical.scope .scoped = n.rebuilt s.canonical.scope .full :=
        rebuilt_policies hwritable (hlinked .scoped) (hlinked .full)
      have haligned' : (n.rebuilt s.canonical.scope .scoped).street.content.Aligned :=
        aligned_rebuilt (aligned_of_applied haligned hrevised)
      exact ⟨hnetwork, congrArg Network.checksum hnetwork,
        Network.upToDate_rebuilt hbaseline hrev (hlinked .scoped), haligned'⟩

/-! ## A new line and a street closed -/

namespace Sample

/-- A tram line between the stop in the middle of the town and a new stop. -/
def shuttle : Scenario Modification where
  modifications := [⟨.addTrips (.uniform "shuttle" .tram
    [{ id := "c" }, { id := "z", latitude := some 45.006, longitude := some 7.0 }]
    300 60 [28800]), {}⟩]

/-- The streets around the first crossing are closed. -/
def closure : Scenario Modification where
  modifications := [⟨.removeStreets { envelope := ⟨45.0, 7.0, 45.001, 7.001⟩ }, {}⟩]

theorem canonical_shuttle : shuttle.canonical = shuttle := by
  unfold Scenario.canonical canonicalize
  rw [show shuttle.modifications = [_] from rfl, List.mergeSort_singleton]
  rfl

theorem canonical_closure : closure.canonical = closure := by
  unfold Scenario.canonical canonicalize
  rw [show closure.modifications = [_] from rfl, List.mergeSort_singleton]
  rfl

/-- A scenario without feeds whose rounds succeed can be applied. -/
theorem exists_applied {s : Scenario Modification} {baseline : Network} (hfeeds : s.feeds = {})
    (hcanonical : s.canonical = s) (hok : (s.revised baseline).toOption.isSome = true)
    (config : ApplicationConfig) (known : Option ContentHash) :
    ∃ applied, (s.apply config baseline known).result = .ok applied := by
  have hverified : verifyFeeds s.feeds baseline.transit.content.feeds =
      .ok (.unverifiable .scenario) := by
    rw [hfeeds]
    rfl
  cases hrevised : s.revised baseline with
  | error e =>
    rw [hrevised] at hok
    cases hok
  | ok n =>
    rw [← hcanonical] at hrevised
    obtain ⟨summary, -, hresult⟩ := Scenario.applyInOrder_of_revised hrevised config
    rw [Scenario.apply_result, hverified, hresult]
    exact ⟨_, rfl⟩

/-- The new line can be laid under either policy. -/
theorem apply_shuttle (policy : RebuildPolicy) :
    ∃ applied, (shuttle.apply { policy } town none).result = .ok applied :=
  exists_applied rfl canonical_shuttle (by decide +kernel) { policy } none

/-- Two stops on the meridian of the lane, one degree to the north. -/
def uplands : TransitLayer :=
  let build : Edit TransitLayer Unit := do
    let _ ← TransitLayer.addStop ⟨"p", "Stop p", ⟨460000000, 70000000⟩⟩
    let _ ← TransitLayer.addStop ⟨"q", "Stop q", ⟨460020000, 70000000⟩⟩
  (build.attempt {}).2

/-- The lane with the stops far to its north. -/
def valley : Network := .build lane uplands {}

/-- The lane is closed, and a bus line laid between the two stops. -/
def detour : Scenario Modification where
  modifications := closure.modifications ++
    [⟨.addTrips (.uniform "uplands" .bus [{ id := "p" }, { id := "q" }] 300 60 [28800]), {}⟩]

theorem canonical_detour : detour.canonical = detour := by
  have hascending : detour.modifications.Pairwise fun a b => inOrder a b = true := by
    decide +kernel
  unfold Scenario.canonical canonicalize
  rw [List.mergeSort_of_pairwise hascending]

theorem aligned_valley : valley.street.content.Aligned := by
  have haligned : lane.Aligned := rfl
  exact Network.aligned_build haligned uplands {}

/-- No stop is within reach of an end of the lane. -/
theorem out_of_reach {c p : Coordinate} (hc : c ∈ lane.vertices)
    (hp : p ∈ uplands.stops.map fun stop => stop.coordinate) :
    ¬(c.distance p ≤ ({} : LinkageParams).linkRadius ∨
      c.distance p ≤ ({} : LinkageParams).treeRadius) := by
  have hplaces : ∀ c ∈ lane.vertices, ∀ p ∈ uplands.stops.map fun stop => stop.coordinate,
      (c.longitude - p.longitude) * metresPerDegree = 0.0 ∧
      ∀ east ∈ [0.0, -0.0, 0.0 / 0.0],
        ¬hypotenuse east ((c.latitude - p.latitude) * metresPerDegree) ≤ 300.0 ∧
        ¬hypotenuse east ((c.latitude - p.latitude) * metresPerDegree) ≤ 2000.0 := by
    decide +kernel
  obtain ⟨hmeridian, hbeyond⟩ := hplaces c hc p hp
  rintro (hnear | hnear)
  · exact Coordinate.beyond_of_meridian hmeridian (fun east heast => (hbeyond east heast).1) hnear
  · exact Coordinate.beyond_of_meridian hmeridian (fun east heast => (hbeyond east heast).2) hnear

/-- The rounds of the detour touch the lane, and leave the stops where they are. -/
theorem revised_detour {n : Network} (h : detour.canonical.revised valley = .ok n) :
    (n.rebuildRegion? detour.canonical.scope).isSome ∧
      n.street.content.touchedPoints = lane.vertices.toList ∧ n.params = valley.params ∧
      n.transit.content.stops = uplands.stops := by
  have hrounds : (detour.revised valley).toOption.all (fun n : Network =>
      (n.rebuildRegion? detour.scope).isSome ∧
      n.street.content.touchedPoints = lane.vertices.toList ∧ n.params = valley.params ∧
      n.transit.content.stops = uplands.stops) = true := by
    decide +kernel
  rw [canonical_detour] at h ⊢
  rw [h] at hrounds
  exact of_decide_eq_true hrounds

/-- Both policies close the lane and lay the new line alike, though the one relinks only what the area
around the lane holds. -/
theorem detour_policies_agree :
    ∃ a b : Applied,
      (detour.apply { policy := .scoped } valley none).result = .ok a ∧
        (detour.apply { policy := .full } valley none).result = .ok b ∧
        a.network.street.content.touchedPoints = lane.vertices.toList ∧
        (∃ area, a.rebuild.region = some area ∧ a.network.RegionCovers area) ∧
        a.network = b.network := by
  have hcovers : ∀ applied : Applied,
      (detour.apply { policy := .scoped } valley none).result = .ok applied →
      ∀ area, applied.rebuild.region = some area → applied.network.RegionCovers area := by
    intro applied happlied area _
    obtain ⟨n, hn, hnetwork, -⟩ := Scenario.applied_of_result happlied
    obtain ⟨-, htouched, hparams, hstops⟩ := revised_detour hn
    rw [hnetwork, Network.regionCovers_rebuilt]
    intro c hc stop hstop hnear
    rw [htouched] at hc
    rw [hstops] at hstop
    rw [hparams] at hnear
    exact absurd hnear (out_of_reach (Array.mem_toList_iff.1 hc) (Array.mem_map_of_mem hstop))
  have hok : (detour.revised valley).toOption.isSome = true := by decide +kernel
  obtain ⟨a, ha⟩ := exists_applied rfl canonical_detour hok { policy := .scoped } none
  obtain ⟨b, hb⟩ := exists_applied rfl canonical_detour hok { policy := .full } none
  have hagree := Scenario.scoped_agrees_with_full detour {} valley none
    (Network.upToDate_build lane uplands {}) aligned_valley hcovers
  simp only [ha, hb] at hagree
  obtain ⟨n, hn, hnetwork, hregion⟩ := Scenario.applied_of_result ha
  obtain ⟨hsome, htouched, -, -⟩ := revised_detour hn
  obtain ⟨area, harea⟩ := Option.isSome_iff_exists.1 hsome
  refine ⟨a, b, ha, hb, ?_, ⟨area, hregion.trans harea, ?_⟩, hagree.1⟩
  · rw [hnetwork, Network.touchedPoints_rebuilt, htouched]
  · exact hcovers a ha area (hregion.trans harea)

end Sample

end Multimodal
