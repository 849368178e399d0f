import Multimodal.Proofs.Modification.Renumbering
import Multimodal.Proofs.Scenario.Descent
import Multimodal.Proofs.Scenario.Phases

/-! # Removed edges leave no trace

What a network went through shows in its removed edges, in the numbers of the others, and in the edges
noted as touched.  None of this has a bearing on an application: a network and the same network without
its removed edges take a scenario alike, and so do any two networks with the same content.

* `resolveAll_renumber`, `applyAll_renumber`: the two rounds do alike.
* `Scenario.apply_compacted`: an application does alike without the removed edges.
* `Scenario.apply_same_content`: an application depends on the content of the network only.
-/

namespace Multimodal

variable {f : EdgeId → EdgeId} {needed : List EdgeId} {scope : LayerScope} {n m : Network}

/-! ## The rounds -/

/-- The modification with the edges that it found under other numbers. -/
def Modification.renumber (f : EdgeId → EdgeId) (x : Modification) : Modification :=
  { x with change := x.change.renumber f }

/-- Reports do not say which edges were found. -/
theorem Report.capture_renumber (i : Nat) (x : Modification) (failure : StepFailure) :
    capture i (x.renumber f) failure = capture i x failure := by
  have htype : Modifies.typeName (x.renumber f) = Modifies.typeName x := x.change.typeName_renumber
  unfold capture
  rw [htype]
  rfl

theorem Modification.resolve_renumber (h : n.Renumbers f needed scope m) (x : Modification) :
    (x.resolve n).2 = (x.resolve m).2 ∧
      (∀ i failure, Report.capture i (x.resolve n).1 failure =
        Report.capture i (x.resolve m).1 failure) ∧
      ((x.resolve m).2 = .ok () → (x.resolve n).1 = (x.resolve m).1.renumber f ∧
        ∀ k ∈ (x.resolve m).1.change.needs, (m.street.content.edge? k).isSome) := by
  obtain ⟨hproblems, hfound⟩ := Change.resolve_renumber h x.change
  have htype : (x.change.resolve n).1.typeName = (x.change.resolve m).1.typeName := by
    rw [(x.change.resolve_kind n).1, (x.change.resolve_kind m).1]
  unfold Modification.resolve
  simp only [hproblems]
  refine ⟨trivial, fun i failure => ?_, fun hok => ?_⟩
  · exact congrArg (fun name => Report.mk i name _ _ failure) htype
  · have hnone : (x.change.resolve m).2 = [] := by
      cases hlist : (x.change.resolve m).2 with
      | nil => rfl
      | cons first rest =>
        rw [hlist] at hok
        cases hok
    obtain ⟨hrenumber, hthere⟩ := hfound hnone
    exact ⟨by rw [hrenumber]; rfl, hthere⟩

/-- Resolving against a renumbered network gives the same reports; if there are none, the
modifications found the same edges, and these are there. -/
theorem resolveAll_renumber (h : n.Renumbers f needed scope m) (i : Nat) (xs : List Modification) :
    (resolveAll n i xs).2 = (resolveAll m i xs).2 ∧ ((resolveAll m i xs).2 = [] →
      (resolveAll n i xs).1.modifications =
          (resolveAll m i xs).1.modifications.map (Modification.renumber f) ∧
        ∀ x ∈ (resolveAll m i xs).1.modifications, ∀ k ∈ x.change.needs,
          (m.street.content.edge? k).isSome) := by
  induction xs generalizing i with
  | nil => exact ⟨rfl, fun _ => ⟨rfl, List.forall_mem_nil _⟩⟩
  | cons x xs ih =>
    obtain ⟨hreports, hrest⟩ := ih (i + 1)
    obtain ⟨hresult, hcapture, hfound⟩ := Modification.resolve_renumber h x
    have hn : ∀ n : Network, Modifies.resolve x n = x.resolve n := fun _ => rfl
    unfold resolveAll
    simp only [hn]
    rcases hxm : x.resolve m with ⟨x', failure | ⟨⟩⟩
    · rw [hxm] at hresult hcapture
      rcases hxn : x.resolve n with ⟨x'', result⟩
      rw [hxn] at hresult hcapture
      obtain rfl : result = .error failure := hresult
      simp only [hreports]
      exact ⟨congrArg (· :: _) (hcapture i failure), nofun⟩
    · rw [hxm] at hresult hfound
      rcases hxn : x.resolve n with ⟨x'', result⟩
      rw [hxn] at hresult hfound
      obtain rfl : result = .ok () := hresult
      obtain ⟨rfl, hthere⟩ := hfound rfl
      refine ⟨hreports, fun hnone => ?_⟩
      obtain ⟨hsame, hall⟩ := hrest hnone
      exact ⟨congrArg (_ :: ·) hsame, List.forall_mem_cons.2 ⟨hthere, hall⟩⟩

theorem Modification.apply_renumber (h : n.Renumbers f needed scope m) (x : Modification)
    (hneeds : x.change.needs ⊆ needed) (hwatched : 10 < x.change.sortOrder → needed = []) :
    ((x.renumber f).apply n).1 = (x.apply m).1.renumber f ∧
      ((x.renumber f).apply n).2.2 = (x.apply m).2.2 ∧
      ((x.renumber f).apply n).2.1.Renumbers f needed scope (x.apply m).2.1 := by
  have halike := Change.alike_apply x.change hneeds hwatched ⟨n, x.diagnostics⟩ ⟨m, x.diagnostics⟩
    ⟨h, rfl⟩
  unfold Modification.apply Modification.renumber
  simp only
  rcases halike.cases with ⟨a, w, b, w', hn, hm, -, hw⟩ | ⟨e, w, w', hn, hm, hw⟩
  · rw [hn, hm]
    exact ⟨congrArg (Modification.mk _) hw.diagnostics, rfl, hw.target⟩
  · rw [hn, hm]
    exact ⟨congrArg (Modification.mk _) hw.diagnostics, rfl, hw.target⟩

/-- The edges to be watched from here on: all of them while the first modification may need some, and
none later, since modifications that need edges come first. -/
theorem exists_watched {x : Modification} {xs : List Modification}
    (hsorted : (x :: xs).Pairwise fun a b => a.change.sortOrder ≤ b.change.sortOrder)
    (hneeds : ∀ y ∈ x :: xs, y.change.needs ⊆ needed) :
    ∃ watched, watched ⊆ needed ∧ (∀ y ∈ x :: xs, y.change.needs ⊆ watched) ∧
      (10 < x.change.sortOrder → watched = []) := by
  by_cases hlate : 10 < x.change.sortOrder
  · refine ⟨[], List.nil_subset _, fun y hy => ?_, fun _ => rfl⟩
    have hy' : 10 < y.change.sortOrder := by
      rcases List.mem_cons.1 hy with rfl | hmem
      · exact hlate
      · exact Int.lt_of_lt_of_le hlate ((List.pairwise_cons.1 hsorted).1 y hmem)
    rw [Change.needs_of_sortOrder hy']
    exact List.nil_subset _
  · exact ⟨needed, List.Subset.refl _, hneeds, fun h => absurd h hlate⟩

theorem applyAll_renumber {xs : List Modification} (h : n.Renumbers f needed scope m)
    (hsorted : xs.Pairwise fun a b => a.change.sortOrder ≤ b.change.sortOrder)
    (hneeds : ∀ x ∈ xs, x.change.needs ⊆ needed) (i : Nat) :
    SameAnswer (Network.Renumbers f [] scope)
      (applyAll n i (xs.map (Modification.renumber f))).2 (applyAll m i xs).2 := by
  -- along the list fewer and fewer edges have to be watched, none once the first kind is over
  induction xs generalizing n m i needed with
  | nil => exact h.mono (List.nil_subset _)
  | cons x xs ih =>
    obtain ⟨watched, hsub, hneeds', hwatched⟩ := exists_watched hsorted hneeds
    obtain ⟨hleft, hresult, hnext⟩ := Modification.apply_renumber (h.mono hsub) x
      (hneeds' x List.mem_cons_self) hwatched
    rcases hxn : (x.renumber f).apply n with ⟨x', n', result⟩
    rcases hxm : x.apply m with ⟨x'', m', result'⟩
    rw [hxn, hxm] at hleft hresult hnext
    obtain rfl : x' = x''.renumber f := hleft
    obtain rfl : result = result' := hresult
    have hxn' : Modifies.apply (x.renumber f) n = _ := hxn
    have hxm' : Modifies.apply x m = _ := hxm
    rw [List.map_cons, applyAll, applyAll, hxn', hxm']
    cases result with
    | error failure => exact Report.capture_renumber i x'' failure
    | ok _ =>
      exact ih hnext (List.pairwise_cons.1 hsorted).2
        (fun y hy => hneeds' y (List.mem_cons_of_mem x hy)) (i + 1)

/-! ## Whole applications -/

theorem Scenario.revised_compacted {s : Scenario Modification}
    (hsorted : s.modifications.Pairwise fun a b => a.change.sortOrder ≤ b.change.sortOrder)
    (n : Network) :
    SameAnswer (Network.Renumbers n.street.content.liveNumber [] s.scope) (s.revised n)
      (s.revised n.compacted) := by
  have hcopy := n.renumbers_scopedCopy s.scope
  obtain ⟨hreports, hfound⟩ := resolveAll_renumber hcopy 0 s.modifications
  have hround := resolveAll_fst (n.compacted.scopedCopy s.scope) 0 s.modifications
  unfold revised
  rcases hn : resolveAll (n.scopedCopy s.scope) 0 s.modifications with ⟨round, reports⟩
  rcases hm : resolveAll (n.compacted.scopedCopy s.scope) 0 s.modifications with
    ⟨round', _ | ⟨report, reports'⟩⟩
  · rw [hn, hm] at hreports hfound
    rw [hm] at hround
    obtain rfl : reports = [] := hreports
    obtain ⟨hmodifications, hthere⟩ : round.modifications = round'.modifications.map _ ∧ _ :=
      hfound rfl
    have hsorted' : round'.modifications.Pairwise
        fun a b => a.change.sortOrder ≤ b.change.sortOrder := by
      obtain rfl : round' = _ := hround
      refine List.pairwise_map.2 (hsorted.imp fun {a b} hab => ?_)
      have hkind : ∀ x : Modification, (resolvedBy (n.compacted.scopedCopy s.scope) x).change.sortOrder
          = x.change.sortOrder := fun x => (x.change.resolve_kind _).2
      rw [hkind, hkind]
      exact hab
    have hneeded : ∀ k ∈ round'.modifications.flatMap (·.change.needs),
        ((n.compacted.scopedCopy s.scope).street.content.edge? k).isSome := by
      intro k hk
      obtain ⟨x, hx, hkx⟩ := List.mem_flatMap.1 hk
      exact hthere x hx k hkx
    have hwatched := hcopy.watch hneeded
    have hall := applyAll_renumber hwatched hsorted'
      (fun x hx k hk => List.mem_flatMap.2 ⟨x, hx, hk⟩) 0
    simp only [hn, hm, hmodifications]
    rcases hall.cases with ⟨n', m', hn', hm', hnetwork⟩ | ⟨report, hn', hm'⟩
    · rw [hn', hm']
      exact hnetwork
    · rw [hn', hm']
      rfl
  · rw [hn, hm] at hreports
    obtain rfl : reports = report :: reports' := hreports
    simp only [hn, hm]
    rfl

/-- Two applications made networks with the same content and the same derived parts, by the same
rebuild. -/
structure Applied.Agrees (x y : Applied) : Prop where
  content : x.network.content = y.network.content
  checksum : x.network.checksum = y.network.checksum
  linkage : x.network.linkage.content = y.network.linkage.content
  membership : x.network.transit.content.membership = y.network.transit.content.membership
  rebuild : x.rebuild = y.rebuild

namespace Applied.Agrees

variable {x y z : Applied}

theorem symm (h : x.Agrees y) : y.Agrees x :=
  ⟨h.content.symm, h.checksum.symm, h.linkage.symm, h.membership.symm, h.rebuild.symm⟩

theorem trans (h : x.Agrees y) (h' : y.Agrees z) : x.Agrees z :=
  ⟨h.content.trans h'.content, h.checksum.trans h'.checksum, h.linkage.trans h'.linkage,
    h.membership.trans h'.membership, h.rebuild.trans h'.rebuild⟩

end Applied.Agrees

/-- An application does alike with and without the removed edges. -/
theorem Scenario.apply_compacted (s : Scenario Modification) (config : ApplicationConfig)
    (baseline : Network) (known : Option ContentHash) :
    SameAnswer Applied.Agrees (s.apply config baseline known).result
      (s.apply config baseline.compacted known).result := by
  have hrounds := revised_compacted (s := s.canonical)
    (stablySorted_canonicalize s.modifications).ascending baseline
  rw [apply_result, apply_result]
  cases hfeeds : verifyFeeds s.feeds baseline.transit.content.feeds with
  | error mismatch =>
    have hfeeds' : verifyFeeds s.feeds baseline.compacted.transit.content.feeds = _ := hfeeds
    rw [hfeeds']
    rfl
  | ok feeds =>
    have hfeeds' : verifyFeeds s.feeds baseline.compacted.transit.content.feeds = _ := hfeeds
    rw [hfeeds', applyInOrder_result, applyInOrder_result]
    rcases hrounds.cases with ⟨n, m, hn, hm, hnetwork⟩ | ⟨e, hn, hm⟩
    · rw [hn, hm]
      rcases (Network.alike_rebuild config.policy n m hnetwork).cases with
        ⟨a, n', b, m', hn', hm', rfl, hrebuilt⟩ | ⟨e, n', m', hn', hm', -⟩
      · simp only [hn', hm']
        exact ⟨hrebuilt.content_eq, Network.checksum_eq_of_content hrebuilt.content_eq,
          congrArg Part.content hrebuilt.linkage,
          congrArg (fun t : Part TransitLayer => t.content.membership) hrebuilt.transit, rfl⟩
      · simp only [hn', hm']
        rfl
    · rw [hn, hm]
      rfl

/-! ## Equal content -/

namespace Network

variable {a b : Network}

theorem transit_eq_of_content (h : a.content = b.content) (ha : a.Current) (hb : b.Current) :
    a.transit.content = b.transit.content := by
  obtain ⟨-, -, hfeeds, hstops, hroutes, hpatterns⟩ := Content.mk.inj h
  have hmembership : a.transit.content.membership = b.transit.content.membership := by
    rw [ha.membership, hb.membership]
    show (TransitLayer.withMembership _).membership = (TransitLayer.withMembership _).membership
    unfold TransitLayer.withMembership
    rw [hstops, hroutes, hpatterns]
  have hstale : a.transit.content.membershipStale = b.transit.content.membershipStale := by
    rw [ha.membershipLists, hb.membershipLists]
  revert hfeeds hstops hroutes hpatterns hmembership hstale
  rcases a.transit.content with ⟨_, _, _, _, _, _⟩
  rcases b.transit.content with ⟨_, _, _, _, _, _⟩
  rintro rfl rfl rfl rfl rfl rfl
  rfl

/-- Up-to-date linkages agree if the stops do and the streets answer searches alike. -/
theorem linkage_eq_of_upToDate (ha : a.UpToDate) (hb : b.UpToDate)
    (htransit : a.transit.content = b.transit.content) (hparams : a.params = b.params)
    (hvertices : a.street.content.vertices = b.street.content.vertices)
    (hdegrees : a.street.content.liveDegree = b.street.content.liveDegree) :
    a.linkage.content = b.linkage.content := by
  have haccess : ∀ p, accessOf a.street.content.withEdgeLists.forgetChanges b.params p =
      accessOf b.street.content.withEdgeLists.forgetChanges b.params p :=
    StreetLayer.accessOf_congr hvertices hdegrees b.params
  rw [ha.linkage, hb.linkage, htransit, hparams]
  unfold build
  simp only [Linkage.linkStops_congr haccess]

/-- Networks with the same content whose derived parts are up to date are the same without their
removed edges. -/
theorem compacted_eq (hcontent : a.content = b.content) (hparams : a.params = b.params)
    (ha : a.Current) (hb : b.Current) (hcountedA : a.street.content.Counted)
    (hcountedB : b.street.content.Counted) : a.compacted = b.compacted := by
  obtain ⟨hvertices, hedges, -⟩ := Content.mk.inj hcontent
  have hdegrees := StreetLayer.liveDegree_eq_of_counted hcountedA hcountedB hvertices hedges
  have hstreet : a.street.content.compacted = b.street.content.compacted := by
    unfold StreetLayer.compacted
    rw [hvertices, hedges, hdegrees]
  have htransit := transit_eq_of_content hcontent ha hb
  have hlinkage :=
    linkage_eq_of_upToDate ha.toUpToDate hb.toUpToDate htransit hparams hvertices hdegrees
  unfold compacted
  rw [hstreet, htransit, hlinkage, hparams]

/-- The vertices and the edges left are what counts of the streets that a network is built from. -/
theorem content_build_congr {s t : StreetLayer} (hvertices : s.vertices = t.vertices)
    (hkept : s.keptEdges = t.keptEdges) (transit : TransitLayer) (params : LinkageParams) :
    (build s transit params).content = (build t transit params).content := by
  show Content.mk s.vertices s.keptEdges _ _ _ _ = Content.mk t.vertices t.keptEdges _ _ _ _
  rw [hvertices, hkept]
  rfl

theorem edges_build (street : StreetLayer) (transit : TransitLayer) (params : LinkageParams) :
    (build street transit params).street.content.edges = street.edges := rfl

end Network

theorem Scenario.apply_of_compacted_eq (s : Scenario Modification) (config : ApplicationConfig)
    (known : Option ContentHash) {a b : Network} (h : a.compacted = b.compacted) :
    SameAnswer Applied.Agrees (s.apply config a known).result (s.apply config b known).result := by
  have hleft := s.apply_compacted config a known
  have hright := s.apply_compacted config b known
  rw [h] at hleft
  rcases hleft.cases with ⟨x, z, hx, hz, hxz⟩ | ⟨e, hx, hz⟩ <;>
    rcases hright.cases with ⟨y, z', hy, hz', hyz⟩ | ⟨e', hy, hz'⟩ <;>
    cases hz.symm.trans hz' <;> rw [hx, hy]
  · exact hxz.trans hyz.symm
  · rfl

/-- The outcome of an application depends on the content of the network only.  Two up-to-date networks
with the same content may differ in their removed edges, in the numbers of the other edges and in what
is noted as touched: a scenario fails on both with the same error, or succeeds on both and makes
networks with the same content, linkage and membership lists, by the same rebuild. -/
theorem Scenario.apply_same_content (s : Scenario Modification) (config : ApplicationConfig)
    (known : Option ContentHash) {a b : Network} (hcontent : a.content = b.content)
    (hparams : a.params = b.params) (ha : a.Current) (hb : b.Current)
    (hcountedA : a.street.content.Counted) (hcountedB : b.street.content.Counted) :
    SameAnswer Applied.Agrees (s.apply config a known).result (s.apply config b known).result :=
  s.apply_of_compacted_eq config known
    (Network.compacted_eq hcontent hparams ha hb hcountedA hcountedB)

/-- So it does not matter how a content came about: networks that were made under the full policy take
a scenario alike as soon as they have the same content. -/
theorem Scenario.apply_of_descends (s : Scenario Modification) (config : ApplicationConfig)
    (known : Option ContentHash) {streetA streetB : StreetLayer} {transitA transitB : TransitLayer}
    {paramsA paramsB : LinkageParams} {a b : Network}
    (ha : Network.Descends (· = .full) (.build streetA transitA paramsA) a)
    (hb : Network.Descends (· = .full) (.build streetB transitB paramsB) b)
    (hstreetA : streetA.Counted) (hstreetB : streetB.Counted) (hcontent : a.content = b.content)
    (hparams : a.params = b.params) :
    SameAnswer Applied.Agrees (s.apply config a known).result (s.apply config b known).result :=
  s.apply_of_compacted_eq config known
    (Network.compacted_eq hcontent hparams (ha.current (Network.current_build _ _ _))
      (hb.current (Network.current_build _ _ _))
      (ha.counted (StreetLayer.counted_build hstreetA _ _))
      (hb.counted (StreetLayer.counted_build hstreetB _ _)))

namespace Sample

/-- The streets with one edge more at the front, which is removed: all others get other numbers. -/
def behindRemoved (s : StreetLayer) : StreetLayer :=
  { s with edges := #[⟨0, 6, 250, 30, .all, true⟩] ++ s.edges }

theorem vertices_behindRemoved (s : StreetLayer) : (behindRemoved s).vertices = s.vertices := rfl

theorem size_behindRemoved (s : StreetLayer) :
    (behindRemoved s).edges.size = s.edges.size + 1 := by
  simp [behindRemoved, Nat.add_comm]

theorem keptEdges_behindRemoved (s : StreetLayer) : (behindRemoved s).keptEdges = s.keptEdges := by
  simp [StreetLayer.keptEdges, behindRemoved]

theorem endsAt_behindRemoved (s : StreetLayer) (v : VertexId) :
    (behindRemoved s).endsAt v = s.endsAt v := by
  unfold StreetLayer.endsAt
  rw [keptEdges_behindRemoved]

theorem counted_behindRemoved {s : StreetLayer} (h : s.Counted) : (behindRemoved s).Counted where
  aligned := h.aligned
  ends v hv := by
    rw [endsAt_behindRemoved]
    exact h.ends v hv
  degree v := by
    rw [endsAt_behindRemoved]
    exact h.degree v

/-- The town under other edge numbers. -/
def renumbered : Network := .build (behindRemoved (grid 5)) twoLines {}

/-- The town takes a closure and a new line alike under either numbers. -/
theorem renumbered_agrees :
    renumbered.street.content.edges.size = town.street.content.edges.size + 1 ∧
      SameAnswer Applied.Agrees (closure.apply {} town none).result
        (closure.apply {} renumbered none).result ∧
      ∃ x y, (shuttle.apply {} town none).result = .ok x ∧
        (shuttle.apply {} renumbered none).result = .ok y ∧ x.Agrees y := by
  have hcontent : town.content = renumbered.content :=
    Network.content_build_congr (vertices_behindRemoved (grid 5)).symm
      (keptEdges_behindRemoved (grid 5)).symm twoLines {}
  have hparams : town.params = renumbered.params := by
    have htown : town.params = {} := rfl
    rw [htown]
    rfl
  have hcurrent : town.Current := Network.current_build (grid 5) twoLines {}
  have hcurrent' : renumbered.Current := Network.current_build (behindRemoved (grid 5)) twoLines {}
  have hcounted : town.street.content.Counted :=
    StreetLayer.counted_build (counted_grid 5) twoLines {}
  have hcounted' : renumbered.street.content.Counted :=
    StreetLayer.counted_build (counted_behindRemoved (counted_grid 5)) twoLines {}
  have hclosure := Scenario.apply_same_content closure {} none hcontent hparams hcurrent hcurrent'
    hcounted hcounted'
  have hshuttle := Scenario.apply_same_content shuttle {} none hcontent hparams hcurrent hcurrent'
    hcounted hcounted'
  obtain ⟨x, hx⟩ := apply_shuttle .scoped
  refine ⟨?_, hclosure, x, ?_⟩
  · unfold renumbered town
    rw [Network.edges_build, Network.edges_build]
    exact size_behindRemoved (grid 5)
  rcases hshuttle.cases with ⟨x', y, hx', hy, hagrees⟩ | ⟨e, he, -⟩
  · cases hx.symm.trans hx'
    exact ⟨y, hx, hy, hagrees⟩
  · cases hx.symm.trans he

end Sample

end Multimodal
