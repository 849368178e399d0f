import Multimodal.Proofs.Scenario.Separation

/-! # What a scoped rebuild links anew

A scoped rebuild links the stops that are new and those in the area around the touched edges, and every
other stop keeps its link and its tree.  That area is widened by the tree radius alone, whereas a link
depends on the streets as far as the link radius.  So a stop that a full rebuild would link differently
is linked anew unless the area leaves it out although a touched edge ends within one of its radii.

* `Linkage.recorded`: the link and the tree of a stop, and `recorded_rebuilt`: what a rebuild records.
* `Network.relinkedBy`: the stops that a rebuild links anew.
* `Network.Misses`: an area leaves out a stop that the touched edges concern.
* `Scenario.relinks_outdated`: what a scoped application links anew, and what it leaves.
-/

namespace Multimodal

/-! ## The links and trees that a rebuild records -/

namespace Linkage

/-- The link and the tree that a linkage has for a stop. -/
def recorded (l : Linkage) (i : StopIndex) : StopLink × List (VertexId × UInt32) :=
  (l.link i, (l.access i).tree)

section Recorded

variable {l : Linkage} {street : StreetLayer} {t : TransitLayer} {params : LinkageParams}
  {selection : StopSelection} {i : StopIndex} {stop : Stop}

theorem recorded_linkStops (hstop : t.stops[i]? = some stop) :
    (l.linkStops street t params selection).1.recorded i =
      if i ∈ (l.linkStops street t params selection).2 then
        accessOf street params stop.coordinate
      else l.recorded i := by
  simp only [mem_linkStops hstop]
  unfold recorded link
  rw [access_linkStops hstop]
  cases l.isSelected selection i stop.coordinate with
  | true => rfl
  | false => rfl

theorem recorded_recompute (radius : Float) (ss : List StopIndex) (hi : i < l.stops.size) :
    (l.recompute t radius ss).recorded i = l.recorded i := by
  unfold recorded link
  rw [access_recompute hi]
  split
  · rfl
  · rfl

theorem Located.recorded (h : l.Located street t params) (hstop : t.stops[i]? = some stop) :
    l.recorded i = accessOf street params stop.coordinate :=
  Prod.ext (h.link i stop hstop) (h.tree i stop hstop)

end Recorded

end Linkage

namespace Network

/-- The stops that a rebuild links anew. -/
def relinkedBy (n : Network) (scope : LayerScope) (policy : RebuildPolicy) : List StopIndex :=
  if scope.isEmpty then []
  else (n.withLists scope).relinkedAround scope policy (n.rebuildRegion? scope)

/-- A rebuild counts the stops that it links anew. -/
theorem relinked_of_rebuild {n m : Network} {scope : LayerScope} {policy : RebuildPolicy}
    {summary : RebuildSummary} (h : n.Writable scope)
    (hrebuild : rebuild scope policy n = .ok summary m) :
    summary.relinked = (n.relinkedBy scope policy).length := by
  unfold relinkedBy
  cases hscope : scope.isEmpty with
  | true =>
    unfold rebuild at hrebuild
    rw [if_pos hscope] at hrebuild
    cases hrebuild
    rfl
  | false =>
    have hlinkage : (n.withLists scope).linkage.shared = false := h.linkage hscope
    obtain ⟨summary', -, hrelinked, hok⟩ := rebuildStops_apply hlinkage scope policy
      (n.rebuildRegion? scope)
    rw [rebuild_eq_rebuildStops h hscope, hok] at hrebuild
    obtain ⟨rfl, -⟩ := EStateM.Result.ok.inj hrebuild
    exact hrelinked

theorem recorded_withLinkage (n : Network) (policy : RebuildPolicy) (selection : StopSelection)
    {i : StopIndex} {stop : Stop} (hstop : n.transit.content.stops[i]? = some stop) :
    (n.withLinkage policy selection).linkage.content.recorded i =
      if i ∈ (n.linkage.content.linkStops n.street.content n.transit.content n.params selection).2
      then accessOf n.street.content n.params stop.coordinate
      else n.linkage.content.recorded i := by
  have hi : i < (n.linkage.content.linkStops n.street.content n.transit.content n.params
      selection).1.stops.size := by
    rw [Linkage.size_linkStops]
    exact (Array.getElem?_eq_some_iff.1 hstop).1
  rw [← Linkage.recorded_linkStops hstop]
  -- either way of finding transfers leaves links and trees alone
  cases policy with
  | full => exact Linkage.recorded_recompute _ _ hi
  | «scoped» => exact Linkage.recorded_recompute _ _ hi

/-- A rebuild records what the streets say of the stops that it links anew and leaves the others. -/
theorem recorded_rebuilt (n : Network) (scope : LayerScope) (policy : RebuildPolicy)
    {i : StopIndex} {stop : Stop} (hstop : n.transit.content.stops[i]? = some stop) :
    (n.rebuilt scope policy).linkage.content.recorded i =
      if i ∈ n.relinkedBy scope policy then accessOf n.street.content n.params stop.coordinate
      else n.linkage.content.recorded i := by
  unfold rebuilt relinkedBy relinkedAround
  cases scope.isEmpty with
  | true => rfl
  | false =>
    cases policy.selection? scope (n.rebuildRegion? scope) with
    | none => rfl
    | some selection =>
      rw [← stops_withLists n scope] at hstop
      rw [← accessOf_withLists n scope]
      exact recorded_withLinkage _ policy selection hstop

/-! ## Which stops a rebuild links anew -/

section Revised

variable {baseline n : Network} {scope : LayerScope} {i : StopIndex} {stop : Stop}

theorem isEmpty_of_relinked {policy : RebuildPolicy} (hmem : i ∈ n.relinkedBy scope policy) :
    scope.isEmpty = false := by
  by_contra hempty
  unfold relinkedBy at hmem
  rw [if_pos (Bool.not_eq_false _ ▸ hempty)] at hmem
  cases hmem

theorem mem_relinkedBy_full (hscope : scope.isEmpty = false)
    (hstop : n.transit.content.stops[i]? = some stop) : i ∈ n.relinkedBy scope .full := by
  unfold relinkedBy relinkedAround
  rw [hscope]
  rw [← stops_withLists n scope] at hstop
  exact (Linkage.mem_linkStops hstop).2 rfl

/-- The stops that have no link yet are those that the baseline does not have. -/
theorem pending_iff_of_revised (hbaseline : baseline.Linked) (h : Revised baseline scope n) :
    n.linkage.content.link i = .pending ↔ baseline.transit.content.stops.size ≤ i := by
  have hlinkage : n.linkage.content = baseline.linkage.content := by
    rw [h.linkage]
    rfl
  rw [hlinkage]
  constructor
  · intro hpending
    by_contra hi
    exact hbaseline.coherent.looked i (Nat.not_le.1 hi) hpending
  · intro hi
    exact Linkage.link_of_size_le (Nat.le_trans (Nat.le_of_eq hbaseline.size) hi)

/-- A stop of a copy whose timetable is not in scope is a stop of the baseline. -/
theorem old_of_revised (h : Revised baseline scope n) (htransit : scope.transit = false)
    (hstop : n.transit.content.stops[i]? = some stop) :
    ¬baseline.transit.content.stops.size ≤ i := by
  rw [transit_of_revised h htransit] at hstop
  exact Nat.not_le.2 (Array.getElem?_eq_some_iff.1 hstop).1

theorem isEmpty_of_region {area : Envelope} (hregion : n.rebuildRegion? scope = some area) :
    scope.isEmpty = false := by
  obtain ⟨street, transit⟩ := scope
  cases street with
  | true => rfl
  | false => cases hregion

/-- A scoped rebuild of a revised copy links the stops that are new and those in the changed area. -/
theorem mem_relinkedBy_scoped (hbaseline : baseline.Linked) (h : Revised baseline scope n)
    (hstop : n.transit.content.stops[i]? = some stop) :
    i ∈ n.relinkedBy scope .scoped ↔ baseline.transit.content.stops.size ≤ i ∨
      ∃ area, n.rebuildRegion? scope = some area ∧ area.contains stop.coordinate = true := by
  have hpending := pending_iff_of_revised (i := i) hbaseline h
  have hselected : (n.withLists scope).transit.content.stops[i]? = some stop := by
    rwa [stops_withLists]
  unfold relinkedBy relinkedAround
  cases hregion : n.rebuildRegion? scope with
  | some area =>
    rw [isEmpty_of_region hregion]
    refine (Linkage.mem_linkStops hselected).trans ?_
    show (decide (n.linkage.content.link i = .pending) || area.contains stop.coordinate) = true ↔ _
    simp only [Bool.or_eq_true, decide_eq_true_eq, hpending, Option.some.injEq, exists_eq_left']
  | none =>
    have hnowhere : ¬∃ area : Envelope, none = some area ∧ area.contains stop.coordinate = true := by
      rintro ⟨area, harea, -⟩
      cases harea
    rw [or_iff_left hnowhere]
    obtain ⟨street, transit⟩ := scope
    cases transit with
    | true =>
      have hscope : (⟨street, true⟩ : LayerScope).isEmpty = false := by
        cases street <;> rfl
      rw [hscope]
      refine (Linkage.mem_linkStops hselected).trans ?_
      show decide (n.linkage.content.link i = .pending) = true ↔ _
      rw [decide_eq_true_iff, hpending]
    | false =>
      -- without a new stop there is nothing to link
      refine iff_of_false ?_ (old_of_revised h rfl hstop)
      split
      · exact List.not_mem_nil
      · exact List.not_mem_nil

/-- The area leaves out a point although a touched edge ends within the link radius or the tree radius
of it. -/
def Misses (n : Network) (area : Envelope) (p : Coordinate) : Prop :=
  area.contains p = false ∧ ∃ c ∈ n.street.content.touchedPoints,
    c.distance p ≤ n.params.linkRadius ∨ c.distance p ≤ n.params.treeRadius

theorem misses_rebuilt {policy : RebuildPolicy} {area : Envelope} {p : Coordinate} :
    (n.rebuilt scope policy).Misses area p ↔ n.Misses area p := by
  unfold Misses
  rw [touchedPoints_rebuilt, (rebuilt_layers n scope policy).2.2]

/-- What a full rebuild would record anew, a scoped one links anew, unless the changed area misses
it. -/
theorem relinked_or_missed (hbaseline : baseline.Linked)
    (haligned : baseline.street.content.Aligned) (h : Revised baseline scope n)
    (hstop : n.transit.content.stops[i]? = some stop)
    (houtdated : (n.rebuilt scope .full).linkage.content.recorded i ≠
      baseline.linkage.content.recorded i) :
    i ∈ n.relinkedBy scope .scoped ∨
      ∃ area, n.rebuildRegion? scope = some area ∧ n.Misses area stop.coordinate := by
  by_cases hmem : i ∈ n.relinkedBy scope .scoped
  · exact .inl hmem
  right
  rw [mem_relinkedBy_scoped hbaseline h hstop, not_or, Nat.not_le, not_exists] at hmem
  obtain ⟨hold, houtside⟩ := hmem
  have hlinkage : n.linkage.content = baseline.linkage.content := by
    rw [h.linkage]
    rfl
  have hparams : n.params = baseline.params := h.params
  have hstop₀ : baseline.transit.content.stops[i]? = some stop := by
    rwa [h.timetable.getElem? hold] at hstop
  -- the streets say something else of the place of the stop than before
  have hchanged : accessOf n.street.content n.params stop.coordinate ≠
      accessOf baseline.street.content n.params stop.coordinate := by
    intro hsame
    refine houtdated ?_
    rw [recorded_rebuilt n scope .full hstop, hlinkage, hsame, hparams,
      hbaseline.recorded hstop₀, ite_self]
  obtain ⟨area, harea, hnear⟩ := touched_of_changed haligned h hchanged
  exact ⟨area, harea, Bool.not_eq_true _ ▸ fun hin => houtside area ⟨harea, hin⟩, hnear⟩

end Revised

end Network

/-! ## Whole applications -/

/-- After a scoped application every stop has either the link and the tree that a full application gives
it, if it was linked anew, or those of the baseline.  Linked anew are the stops that are new and those
in the area around the touched edges.  A stop for which a full application would record something else
than the baseline is linked anew, unless that area misses it. -/
theorem Scenario.relinks_outdated (s : Scenario Modification) (config : ApplicationConfig)
    (baseline : Network) (known : Option ContentHash) (hbaseline : baseline.Linked)
    (haligned : baseline.street.content.Aligned) {applied : Applied}
    (h : (s.apply { config with policy := .scoped } baseline known).result = .ok applied) :
    ∃ (full : Applied) (n : Network),
      (s.apply { config with policy := .full } baseline known).result = .ok full ∧
      s.canonical.revised baseline = .ok n ∧
      applied.rebuild.relinked = (n.relinkedBy s.scope .scoped).length ∧
      ∀ (i : StopIndex) (stop : Stop), applied.network.transit.content.stops[i]? = some stop →
        (i ∈ n.relinkedBy s.scope .scoped ↔ baseline.transit.content.stops.size ≤ i ∨
          ∃ area, applied.rebuild.region = some area ∧ area.contains stop.coordinate = true) ∧
        applied.network.linkage.content.recorded i =
          (if i ∈ n.relinkedBy s.scope .scoped then full.network.linkage.content.recorded i
          else baseline.linkage.content.recorded i) ∧
        (full.network.linkage.content.recorded i ≠ baseline.linkage.content.recorded i →
          i ∈ n.relinkedBy s.scope .scoped ∨ ∃ area, applied.rebuild.region = some area ∧
            applied.network.Misses area stop.coordinate) := by
  obtain ⟨full, hfull⟩ : ∃ full,
      (s.apply { config with policy := .full } baseline known).result = .ok full :=
    (s.succeeds_iff _ baseline known).2 ((s.succeeds_iff _ baseline known).1 ⟨applied, h⟩)
  obtain ⟨n, hrevised, hrebuild⟩ := rebuild_of_result h
  obtain ⟨n₁, hn₁, hnetwork, hregion⟩ := applied_of_result h
  obtain ⟨n₂, hn₂, hfullnetwork, -⟩ := applied_of_result hfull
  obtain rfl : n = n₁ := Except.ok.inj (hrevised.symm.trans hn₁)
  obtain rfl : n = n₂ := Except.ok.inj (hrevised.symm.trans hn₂)
  have hrev := revised_of_applied hrevised
  rw [s.scope_canonical] at hrev hrebuild hnetwork hregion hfullnetwork
  have hwritable := hrev.becomes.writable (Network.writable_scopedCopy baseline s.scope)
  refine ⟨full, n, hfull, hrevised, Network.relinked_of_rebuild hwritable hrebuild, ?_⟩
  intro i stop hstop
  rw [hnetwork, Network.stops_rebuilt] at hstop
  rw [hregion, hnetwork, hfullnetwork]
  refine ⟨Network.mem_relinkedBy_scoped hbaseline hrev hstop, ?_, fun houtdated => ?_⟩
  · rw [Network.recorded_rebuilt n s.scope .scoped hstop]
    by_cases hmem : i ∈ n.relinkedBy s.scope .scoped
    · have hfullmem := Network.mem_relinkedBy_full (Network.isEmpty_of_relinked hmem) hstop
      rw [if_pos hmem, if_pos hmem, Network.recorded_rebuilt n s.scope .full hstop,
        if_pos hfullmem]
    · rw [if_neg hmem, if_neg hmem, hrev.linkage]
      rfl
  · refine (Network.relinked_or_missed hbaseline haligned hrev hstop houtdated).imp_right ?_
    rintro ⟨area, harea, hmissed⟩
    exact ⟨area, harea, Network.misses_rebuilt.2 hmissed⟩

/-! ## A street closed -/

/-- Without a vertex that has an edge there is nothing to link to. -/
theorem accessOf_of_no_edge_ends {street : StreetLayer} (h : ∀ v, street.degree v = 0)
    (params : LinkageParams) (p : Coordinate) : accessOf street params p = (.unlinked, []) := by
  have hnone : street.verticesWithin p params.linkRadius = [] := by
    unfold StreetLayer.verticesWithin
    simp [h]
  unfold accessOf StreetLayer.nearestVertex?
  rw [hnone]
  rfl

namespace Sample

theorem aligned_hamlet : hamlet.street.content.Aligned := by
  have haligned : lane.Aligned := rfl
  exact Network.aligned_build haligned twoLines {}

/-- The closure leaves no edge end in the hamlet. -/
theorem degree_closed {n : Network} (h : closure.canonical.revised hamlet = .ok n) (v : VertexId) :
    n.street.content.degree v = 0 := by
  have hclosed : (closure.revised hamlet).toOption.all
      (·.street.content.liveDegree = #[0, 0]) = true := by decide +kernel
  rw [canonical_closure] at h
  rw [h] at hclosed
  have hdegrees : n.street.content.liveDegree = #[0, 0] := of_decide_eq_true hclosed
  unfold StreetLayer.degree
  rw [hdegrees]
  match v with
  | 0 => rfl
  | 1 => rfl
  | v + 2 => rfl

/-- When the only street of the hamlet is closed, a full application unlinks every stop.  So does a
scoped one, but a linked stop that the changed area misses keeps its link to the closed street. -/
theorem closed_hamlet_relinks :
    ∃ (applied full : Applied) (n : Network),
      (closure.apply { policy := .scoped } hamlet none).result = .ok applied ∧
      (closure.apply { policy := .full } hamlet none).result = .ok full ∧
      ∀ (i : StopIndex) (stop : Stop), applied.network.transit.content.stops[i]? = some stop →
        full.network.linkage.content.recorded i = (.unlinked, []) ∧
        (hamlet.linkage.content.recorded i ≠ (.unlinked, []) →
          i ∈ n.relinkedBy closure.scope .scoped ∧
              applied.network.linkage.content.recorded i = (.unlinked, []) ∨
            applied.network.linkage.content.recorded i = hamlet.linkage.content.recorded i ∧
              ∃ area, applied.rebuild.region = some area ∧
                applied.network.Misses area stop.coordinate) := by
  obtain ⟨applied, happlied⟩ := apply_closure { policy := .scoped }
  obtain ⟨full, n, hfull, hn, -, hstops⟩ := closure.relinks_outdated {} hamlet none
    (Network.upToDate_build lane twoLines {}).linked aligned_hamlet happlied
  refine ⟨applied, full, n, happlied, hfull, fun i stop hstop => ?_⟩
  obtain ⟨-, hrecorded, houtdated⟩ := hstops i stop hstop
  have hunlinked : full.network.linkage.content.recorded i = (.unlinked, []) := by
    have hscope : closure.canonical.scope.isEmpty = false := by
      rw [closure.scope_canonical]
      rfl
    obtain ⟨n₁, hn₁, hnetwork, -⟩ := Scenario.applied_of_result happlied
    obtain ⟨n₂, hn₂, hfullnetwork, -⟩ := Scenario.applied_of_result hfull
    obtain rfl : n = n₁ := Except.ok.inj (hn.symm.trans hn₁)
    obtain rfl : n = n₂ := Except.ok.inj (hn.symm.trans hn₂)
    rw [hnetwork, Network.stops_rebuilt] at hstop
    rw [hfullnetwork, Network.recorded_rebuilt n _ .full hstop,
      if_pos (Network.mem_relinkedBy_full hscope hstop), accessOf_of_no_edge_ends (degree_closed hn)]
  refine ⟨hunlinked, fun hlinked => ?_⟩
  rw [hunlinked] at hrecorded houtdated
  by_cases hmem : i ∈ n.relinkedBy closure.scope .scoped
  · rw [if_pos hmem] at hrecorded
    exact .inl ⟨hmem, hrecorded⟩
  · rw [if_neg hmem] at hrecorded
    exact .inr ⟨hrecorded, (houtdated hlinked.symm).resolve_left hmem⟩

end Sample

end Multimodal
