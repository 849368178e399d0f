import Multimodal.Proofs.Linkage.Accurate
import Multimodal.Proofs.Network.Reach

/-! # What a rebuild makes of a network

A rebuild of a network whose parts in scope nobody else holds always succeeds.  What it makes is told
here as a function of the network; whether it links all stops or only those that a change concerns,
the linkage comes out accurate.

* `Network.rebuilt`, `rebuild_apply`: the network that a rebuild leaves.
* `Network.UpToDate`: what is derived from the layers is what building makes of them.
* `Network.RegionCovers`: an area reaches every stop that a touched edge concerns.
* `accurate_rebuilt`: the linkage after a rebuild is accurate under either policy.
-/

namespace Multimodal

namespace Network

/-! ## The rebuild as a function -/

/-- The network with edge lists and membership lists built anew for the layers in scope. -/
def withLists (n : Network) (scope : LayerScope) : Network :=
  { n with
    street := if scope.street then ⟨n.street.content.withEdgeLists, false⟩ else n.street
    transit := if scope.transit then ⟨n.transit.content.withMembership, false⟩ else n.transit }

/-- The network with the selected stops linked anew and their transfers found. -/
def withLinkage (n : Network) (policy : RebuildPolicy) (selection : StopSelection) : Network :=
  let linked := n.linkage.content.linkStops n.street.content n.transit.content n.params selection
  let radius := n.params.transferRadius
  { n with
    linkage := ⟨match policy with
      | .full => linked.1.findAllTransfers n.transit.content radius
      | .scoped => (linked.1.findTransfers n.transit.content radius linked.2).1, false⟩ }

/-- The area around the touched edges, if streets are in scope. -/
def rebuildRegion? (n : Network) (scope : LayerScope) : Option Envelope :=
  if scope.street then n.changedRegion? n.params.treeRadius else none

/-- The network that a rebuild leaves. -/
def rebuilt (n : Network) (scope : LayerScope) (policy : RebuildPolicy) : Network :=
  if scope.isEmpty then n
  else
    match policy.selection? scope (n.rebuildRegion? scope) with
    | none => n.withLists scope
    | some selection => (n.withLists scope).withLinkage policy selection

/-- Nobody else holds the parts that a rebuild of this scope changes. -/
structure Writable (n : Network) (scope : LayerScope) : Prop where
  street : scope.street = true → n.street.shared = false
  transit : scope.transit = true → n.transit.shared = false
  linkage : scope.isEmpty = false → n.linkage.shared = false

theorem writable_scopedCopy (n : Network) (scope : LayerScope) :
    (n.scopedCopy scope).Writable scope where
  street h := by
    unfold scopedCopy
    rw [if_pos h]
  transit h := by
    show (!scope.transit) = false
    rw [h]
    rfl
  linkage h := h

theorem Becomes.writable {n m : Network} {scope : LayerScope} (h : n.Becomes m)
    (hn : n.Writable scope) : m.Writable scope where
  street hs := h.street.shared.trans (hn.street hs)
  transit ht := h.transit.shared.trans (hn.transit ht)
  linkage hl := h.linkage.shared.trans (hn.linkage hl)

theorem buildEdgeLists_apply {n : Network} (h : n.street.shared = false) :
    buildEdgeLists n = .ok ⟨⟩ { n with street := ⟨n.street.content.withEdgeLists, false⟩ } := by
  unfold buildEdgeLists editStreet
  rw [h]
  rfl

theorem buildMembership_apply {n : Network} (h : n.transit.shared = false) :
    buildMembership n =
      .ok ⟨⟩ { n with transit := ⟨n.transit.content.withMembership, false⟩ } := by
  unfold buildMembership editTransit
  rw [h]
  rfl

theorem editLinkage_apply {α : Type} {n : Network} (h : n.linkage.shared = false)
    (edit : Network → Linkage × α) :
    editLinkage edit n = .ok (edit n).2 { n with linkage := ⟨(edit n).1, false⟩ } := by
  unfold editLinkage
  rw [h]
  rfl

theorem rebuildLinkage_apply {n : Network} (h : n.linkage.shared = false)
    (policy : RebuildPolicy) (selection : StopSelection) :
    ∃ counts : Nat × Nat, counts.1 = (n.linkage.content.linkStops n.street.content
        n.transit.content n.params selection).2.length ∧
      rebuildLinkage policy selection n = .ok counts (n.withLinkage policy selection) := by
  unfold rebuildLinkage linkStops
  rw [bind_of_ok (editLinkage_apply h _)]
  cases policy with
  | full =>
    unfold findAllTransfers
    exact ⟨_, rfl, bind_of_ok (editLinkage_apply rfl _)⟩
  | «scoped» =>
    unfold findTransfers
    exact ⟨_, rfl, bind_of_ok (editLinkage_apply rfl _)⟩

/-- The stops that the last stage of a rebuild links anew. -/
def relinkedAround (n : Network) (scope : LayerScope) (policy : RebuildPolicy)
    (region : Option Envelope) : List StopIndex :=
  match policy.selection? scope region with
  | none => []
  | some selection =>
    (n.linkage.content.linkStops n.street.content n.transit.content n.params selection).2

theorem rebuildStops_apply {n : Network} (h : n.linkage.shared = false) (scope : LayerScope)
    (policy : RebuildPolicy) (region : Option Envelope) :
    ∃ summary : RebuildSummary, summary.region = region ∧
      summary.relinked = (n.relinkedAround scope policy region).length ∧
      rebuildStops scope policy region n =
        .ok summary (match policy.selection? scope region with
          | none => n
          | some selection => n.withLinkage policy selection) := by
  unfold rebuildStops relinkedAround
  cases policy.selection? scope region with
  | none => exact ⟨_, rfl, rfl, rfl⟩
  | some selection =>
    obtain ⟨counts, hrelinked, hcounts⟩ := rebuildLinkage_apply h policy selection
    refine ⟨_, ?_, ?_, bind_of_ok hcounts⟩
    · rfl
    · exact hrelinked

/-- A rebuild builds the lists and then links stops, around the edges touched before. -/
theorem rebuild_eq_rebuildStops {n : Network} {scope : LayerScope} (h : n.Writable scope)
    (hscope : scope.isEmpty = false) (policy : RebuildPolicy) :
    rebuild scope policy n =
      rebuildStops scope policy (n.rebuildRegion? scope) (n.withLists scope) := by
  obtain ⟨street, transit⟩ := scope
  cases street with
  | true =>
    have hedges := buildEdgeLists_apply (h.street rfl)
    cases transit with
    | true =>
      show (buildEdgeLists >>= fun _ => get >>= fun m => buildMembership >>= fun _ =>
        rebuildStops ⟨true, true⟩ policy (m.changedRegion? m.params.treeRadius)) n = _
      have hmembership := buildMembership_apply
        (n := { n with street := ⟨n.street.content.withEdgeLists, false⟩ }) (h.transit rfl)
      rw [bind_of_ok hedges]
      exact bind_of_ok hmembership
    | false =>
      show (buildEdgeLists >>= fun _ => get >>= fun m =>
        rebuildStops ⟨true, false⟩ policy (m.changedRegion? m.params.treeRadius)) n = _
      rw [bind_of_ok hedges]
      rfl
  | false =>
    cases transit with
    | true =>
      show (get >>= fun _ => buildMembership >>= fun _ =>
        rebuildStops ⟨false, true⟩ policy none) n = _
      exact bind_of_ok (buildMembership_apply (h.transit rfl))
    | false => cases hscope

/-- A rebuild that may change the parts in scope succeeds. -/
theorem rebuild_apply {n : Network} {scope : LayerScope} (h : n.Writable scope)
    (policy : RebuildPolicy) :
    ∃ summary : RebuildSummary, summary.region = n.rebuildRegion? scope ∧
      rebuild scope policy n = .ok summary (n.rebuilt scope policy) := by
  cases hscope : scope.isEmpty with
  | true =>
    obtain ⟨street, transit⟩ := scope
    cases street <;> cases transit <;> first | exact ⟨{}, rfl, rfl⟩ | cases hscope
  | false =>
    have hlinkage : (n.withLists scope).linkage.shared = false := h.linkage hscope
    obtain ⟨summary, hregion, -, hok⟩ := rebuildStops_apply hlinkage scope policy
      (n.rebuildRegion? scope)
    refine ⟨summary, hregion, ?_⟩
    rw [rebuild_eq_rebuildStops h hscope, hok]
    unfold rebuilt
    rw [hscope]
    rfl

/-! ## Accurate networks -/

/-- What is derived from the layers is what building a network makes of them. -/
structure UpToDate (n : Network) : Prop where
  outgoing : n.street.content.outgoing =
    (build n.street.content n.transit.content n.params).street.content.outgoing
  incoming : n.street.content.incoming =
    (build n.street.content n.transit.content n.params).street.content.incoming
  membership : n.transit.content.membership =
    (build n.street.content n.transit.content n.params).transit.content.membership
  linkage : n.linkage.content =
    (build n.street.content n.transit.content n.params).linkage.content

/-- The linkage says what the layers of its network say. -/
def Linked (n : Network) : Prop :=
  n.linkage.content.Accurate n.street.content n.transit.content n.params

theorem accurate_build (street : StreetLayer) (transit : TransitLayer) (params : LinkageParams) :
    (build street transit params).linkage.content.Accurate street transit params := by
  have h := Linkage.accurate_all {} street.withEdgeLists.forgetChanges transit.withMembership params
  -- neither edge lists, touched edges nor membership lists are looked at
  exact ⟨⟨h.size, h.link, h.tree⟩, h.transfers⟩

/-- A built network is up to date. -/
theorem upToDate_build (street : StreetLayer) (transit : TransitLayer) (params : LinkageParams) :
    (build street transit params).UpToDate where
  outgoing := rfl
  incoming := rfl
  membership := rfl
  linkage := by
    refine (accurate_build street transit params).unique ?_
    have h := accurate_build (build street transit params).street.content
      (build street transit params).transit.content params
    exact ⟨⟨h.size, h.link, h.tree⟩, h.transfers⟩

theorem aligned_build {street : StreetLayer} (h : street.Aligned) (transit : TransitLayer)
    (params : LinkageParams) : (build street transit params).street.content.Aligned := h

theorem UpToDate.linked {n : Network} (h : n.UpToDate) : n.Linked := by
  unfold Linked
  rw [h.linkage]
  exact accurate_build _ _ _

/-- A linkage that is accurate, with lists that are built from the layers, is up to date. -/
theorem Linked.upToDate {n : Network} (h : n.Linked)
    (hedges : n.street.content.outgoing = n.street.content.withEdgeLists.outgoing ∧
      n.street.content.incoming = n.street.content.withEdgeLists.incoming)
    (hmembership : n.transit.content.membership = n.transit.content.withMembership.membership) :
    n.UpToDate where
  outgoing := hedges.1
  incoming := hedges.2
  membership := hmembership
  linkage := h.unique (accurate_build _ _ _)

/-- The area holds every stop that lies within the link radius or the tree radius of an end of a
touched edge. -/
def RegionCovers (n : Network) (area : Envelope) : Prop :=
  ∀ c ∈ n.street.content.touchedPoints, ∀ stop ∈ n.transit.content.stops,
    c.distance stop.coordinate ≤ n.params.linkRadius ∨
      c.distance stop.coordinate ≤ n.params.treeRadius → area.contains stop.coordinate = true

/-! ## The linkage after a rebuild -/

/-- The layers of a copy after modifications: the streets continue those of the baseline and the
stops of the baseline come first. -/
abbrev Revised (baseline : Network) (scope : LayerScope) : Network → Prop :=
  Reached baseline.street.content.Continues
    (fun t => Extends t.stops baseline.transit.content.stops) (baseline.scopedCopy scope)

theorem revised_scopedCopy (baseline : Network) (scope : LayerScope) :
    Revised baseline scope (baseline.scopedCopy scope) := by
  refine Reached.start ?_ (Extends.refl _)
  unfold scopedCopy
  split
  · exact StreetLayer.Continues.forgetChanges _
  · exact StreetLayer.Continues.refl _

section Rebuilt

variable {baseline n : Network} {scope : LayerScope}

theorem street_of_revised (h : Revised baseline scope n) (hscope : scope.street = false) :
    n.street.content = baseline.street.content := by
  have hkept := h.street.content
  unfold scopedCopy at hkept
  rw [hscope] at hkept
  exact hkept rfl

theorem transit_of_revised (h : Revised baseline scope n) (hscope : scope.transit = false) :
    n.transit.content = baseline.transit.content := by
  have hkept := h.transit.content
  unfold scopedCopy at hkept
  rw [hscope] at hkept
  exact hkept rfl

theorem touchedPoints_of_no_region {metres : Float}
    (h : n.changedRegion? metres = none) : n.street.content.touchedPoints = [] := by
  have hcovering : (Envelope.covering n.street.content.touchedPoints).map (·.buffered metres) =
      none := h
  rw [Option.map_eq_none_iff] at hcovering
  cases hpoints : n.street.content.touchedPoints with
  | nil => rfl
  | cons p rest =>
    rw [hpoints] at hcovering
    cases hcovering

/-- If the streets say something else of a place than before, then there is a changed area, and a
touched edge ends within the link radius or the tree radius of the place. -/
theorem touched_of_changed (haligned : baseline.street.content.Aligned)
    (h : Revised baseline scope n) {p : Coordinate}
    (hchanged : accessOf n.street.content n.params p ≠
      accessOf baseline.street.content n.params p) :
    ∃ area, n.rebuildRegion? scope = some area ∧ ∃ c ∈ n.street.content.touchedPoints,
      c.distance p ≤ n.params.linkRadius ∨ c.distance p ≤ n.params.treeRadius := by
  have hstreet : scope.street = true := by
    by_contra hstreet
    rw [street_of_revised h (Bool.not_eq_true _ ▸ hstreet)] at hchanged
    exact hchanged rfl
  have hnear : ∃ c ∈ n.street.content.touchedPoints,
      c.distance p ≤ n.params.linkRadius ∨ c.distance p ≤ n.params.treeRadius := by
    by_contra hfar
    exact hchanged (StreetLayer.accessOf_eq_of_continues haligned h.streets n.params
      fun c hc hnear => hfar ⟨c, hc, hnear⟩)
  have hregion : n.rebuildRegion? scope = n.changedRegion? n.params.treeRadius := if_pos hstreet
  cases harea : n.rebuildRegion? scope with
  | none =>
    obtain ⟨c, hc, -⟩ := hnear
    rw [touchedPoints_of_no_region (hregion.symm.trans harea)] at hc
    cases hc
  | some area => exact ⟨area, rfl, hnear⟩

/-- Around a stop outside the changed area the streets say what they said before. -/
theorem accessOf_of_revised (haligned : baseline.street.content.Aligned)
    (h : Revised baseline scope n)
    (hcovers : ∀ area, n.rebuildRegion? scope = some area → n.RegionCovers area) {stop : Stop}
    (hstop : stop ∈ n.transit.content.stops)
    (houtside : ∀ area, n.rebuildRegion? scope = some area →
      area.contains stop.coordinate = false) :
    accessOf n.street.content n.params stop.coordinate =
      accessOf baseline.street.content n.params stop.coordinate := by
  by_contra hchanged
  obtain ⟨area, harea, c, hc, hnear⟩ := touched_of_changed haligned h hchanged
  have hinside := hcovers area harea c hc stop hstop hnear
  rw [houtside area harea] at hinside
  cases hinside

theorem accessOf_withLists (n : Network) (scope : LayerScope) (p : Coordinate) :
    accessOf (n.withLists scope).street.content n.params p =
      accessOf n.street.content n.params p := by
  unfold withLists
  cases scope.street with
  | true => rfl
  | false => rfl

/-- A stop of the baseline outside the changed area has the access it had. -/
theorem accessOf_withLists_of_revised (haligned : baseline.street.content.Aligned)
    (h : Revised baseline scope n)
    (hcovers : ∀ area, n.rebuildRegion? scope = some area → n.RegionCovers area) {i : StopIndex}
    {stop : Stop} (hstop : baseline.transit.content.stops[i]? = some stop)
    (houtside : ∀ area, n.rebuildRegion? scope = some area →
      area.contains stop.coordinate = false) :
    accessOf (n.withLists scope).street.content n.params stop.coordinate =
      accessOf baseline.street.content n.params stop.coordinate := by
  rw [accessOf_withLists]
  refine accessOf_of_revised haligned h hcovers ?_ houtside
  have hi := (Array.getElem?_eq_some_iff.1 hstop).1
  rw [← h.timetable.getElem? hi] at hstop
  exact Array.mem_of_getElem? hstop

theorem stops_withLists (n : Network) (scope : LayerScope) :
    (n.withLists scope).transit.content.stops = n.transit.content.stops := by
  unfold withLists
  cases scope.transit with
  | true => rfl
  | false => rfl

theorem linked_rebuilt_empty {policy : RebuildPolicy} (hbaseline : baseline.Linked)
    (h : Revised baseline scope n) (hscope : scope.isEmpty = true) :
    (n.rebuilt scope policy).Linked := by
  obtain ⟨street, transit⟩ := scope
  unfold rebuilt
  rw [hscope]
  have hlayers : street = false ∧ transit = false := by
    cases street <;> cases transit <;> first | exact ⟨rfl, rfl⟩ | cases hscope
  obtain ⟨rfl, rfl⟩ := hlayers
  have hlinkage : n.linkage.content = baseline.linkage.content := by
    rw [h.linkage]
    rfl
  have hparams : n.params = baseline.params := h.params
  show n.Linked
  unfold Linked
  rw [hlinkage, hparams, street_of_revised h rfl, transit_of_revised h rfl]
  exact hbaseline

/-- After a rebuild of everything the linkage is accurate, whatever it was before. -/
theorem linked_rebuilt_full (n : Network) (hscope : scope.isEmpty = false) :
    (n.rebuilt scope .full).Linked := by
  unfold rebuilt
  rw [hscope]
  exact Linkage.accurate_all _ _ _ _

/-- After a rebuild of what a change concerns the linkage is accurate, if the baseline's was and the
changed area reaches far enough. -/
theorem linked_rebuilt_scoped (hbaseline : baseline.Linked)
    (haligned : baseline.street.content.Aligned) (h : Revised baseline scope n)
    (hcovers : ∀ area, n.rebuildRegion? scope = some area → n.RegionCovers area)
    (hscope : scope.isEmpty = false) : (n.rebuilt scope .scoped).Linked := by
  have hlinkage : (n.withLists scope).linkage.content.Accurate baseline.street.content
      baseline.transit.content n.params := by
    show n.linkage.content.Accurate _ _ _
    rw [h.linkage, h.params]
    exact hbaseline
  have hextends : Extends (n.withLists scope).transit.content.stops
      baseline.transit.content.stops := by
    rw [stops_withLists]
    exact h.timetable
  unfold rebuilt
  rw [hscope]
  cases hregion : n.rebuildRegion? scope with
  | some area =>
    refine Linkage.accurate_selected hlinkage hextends fun i stop hstop hsel => ?_
    refine accessOf_withLists_of_revised haligned h hcovers hstop fun area' harea' => ?_
    rw [hregion] at harea'
    cases harea'
    exact (Bool.or_eq_false_iff.1 hsel).2
  | none =>
    have hnowhere : ∀ stop : Stop, ∀ area, n.rebuildRegion? scope = some area →
        area.contains stop.coordinate = false := by
      intro stop area harea
      rw [hregion] at harea
      cases harea
    cases htransit : scope.transit with
    | true =>
      have hselection : RebuildPolicy.selection? .scoped scope none = some .pending := by
        unfold RebuildPolicy.selection?
        rw [htransit]
        rfl
      simp only [hselection, Bool.false_eq_true, if_false]
      refine Linkage.accurate_selected hlinkage hextends fun i stop hstop _ => ?_
      exact accessOf_withLists_of_revised haligned h hcovers hstop (hnowhere stop)
    | false =>
      have hselection : RebuildPolicy.selection? .scoped scope none = none := by
        unfold RebuildPolicy.selection?
        rw [htransit]
        rfl
      have hkept : (n.withLists scope).transit.content = baseline.transit.content := by
        unfold withLists
        rw [htransit]
        show n.transit.content = baseline.transit.content
        exact transit_of_revised h htransit
      simp only [hselection, Bool.false_eq_true, if_false]
      unfold Linked
      rw [hkept]
      exact hlinkage.of_same fun i stop hstop =>
        accessOf_withLists_of_revised haligned h hcovers hstop (hnowhere stop)

/-- A rebuild builds lists and a linkage and leaves everything else. -/
theorem rebuilt_layers (n : Network) (scope : LayerScope) (policy : RebuildPolicy) :
    (n.rebuilt scope policy).street = (n.withLists scope).street ∧
      (n.rebuilt scope policy).transit = (n.withLists scope).transit ∧
      (n.rebuilt scope policy).params = n.params := by
  obtain ⟨street, transit⟩ := scope
  unfold rebuilt
  cases policy.selection? ⟨street, transit⟩ (n.rebuildRegion? ⟨street, transit⟩) <;>
    cases street <;> cases transit <;> exact ⟨rfl, rfl, rfl⟩

theorem stops_rebuilt (n : Network) (scope : LayerScope) (policy : RebuildPolicy) :
    (n.rebuilt scope policy).transit.content.stops = n.transit.content.stops := by
  rw [(rebuilt_layers n scope policy).2.1, stops_withLists]

theorem touchedPoints_rebuilt (n : Network) (scope : LayerScope) (policy : RebuildPolicy) :
    (n.rebuilt scope policy).street.content.touchedPoints = n.street.content.touchedPoints := by
  rw [(rebuilt_layers n scope policy).1]
  unfold withLists
  cases scope.street with
  | true => rfl
  | false => rfl

theorem regionCovers_rebuilt {policy : RebuildPolicy} {area : Envelope} :
    (n.rebuilt scope policy).RegionCovers area ↔ n.RegionCovers area := by
  unfold RegionCovers
  rw [touchedPoints_rebuilt, stops_rebuilt, (rebuilt_layers n scope policy).2.2]

/-- After a rebuild a revised copy is up to date as soon as its linkage is accurate. -/
theorem upToDate_rebuilt {policy : RebuildPolicy} (hbaseline : baseline.UpToDate)
    (h : Revised baseline scope n) (hlinked : (n.rebuilt scope policy).Linked) :
    (n.rebuilt scope policy).UpToDate := by
  obtain ⟨hstreet, htransit, -⟩ := rebuilt_layers n scope policy
  refine hlinked.upToDate ?_ ?_
  · rw [hstreet]
    unfold withLists
    cases hs : scope.street with
    | true => exact ⟨rfl, rfl⟩
    | false =>
      simp only [Bool.false_eq_true, if_false]
      rw [street_of_revised h hs]
      exact ⟨hbaseline.outgoing, hbaseline.incoming⟩
  · rw [htransit]
    unfold withLists
    cases ht : scope.transit with
    | true => rfl
    | false =>
      simp only [Bool.false_eq_true, if_false]
      rw [transit_of_revised h ht]
      exact hbaseline.membership

end Rebuilt

end Network

end Multimodal
