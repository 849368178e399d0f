import Multimodal.Proofs.Linkage.Coherent
import Multimodal.Proofs.Scenario.Policy

/-! # Networks made one after another

Scenarios can be applied to what earlier ones made, and what holds of every network on the way is
shown step by step: a network that is built has it, and one more application keeps it.

* `Network.Descends`: one network came from another through successful applications.
* `Network.complete_of_descends`: under any policies the linkage stays complete.
* `Network.current_of_descends`: under the full policy nothing derived is ever out of date.
-/

namespace Multimodal

namespace Network

/-- The network came from the first by applying scenarios of built-in modifications in turn, each under
one of the policies. -/
inductive Descends (policies : RebuildPolicy → Prop) (first : Network) : Network → Prop
  | refl : Descends policies first first
  | apply {n : Network} {s : Scenario Modification} {config : ApplicationConfig}
      {known : Option ContentHash} {applied : Applied} (h : Descends policies first n)
      (hpolicy : policies config.policy) (hresult : (s.apply config n known).result = .ok applied) :
      Descends policies first applied.network

variable {baseline n : Network} {scope : LayerScope} {policies : RebuildPolicy → Prop}

namespace Descends

variable {first : Network}

/-- What every application keeps holds of everything that descends. -/
theorem invariant {I : Network → Prop} (h : Descends policies first n) (hfirst : I first)
    (hstep : ∀ (s : Scenario Modification) (baseline n : Network) (policy : RebuildPolicy),
      I baseline → s.revised baseline = .ok n → policies policy → I (n.rebuilt s.scope policy)) :
    I n := by
  induction h with
  | refl => exact hfirst
  | apply _ hpolicy hresult ih =>
    obtain ⟨n, hrevised, hnetwork, -⟩ := Scenario.applied_of_result hresult
    rw [hnetwork]
    exact hstep _ _ n _ ih hrevised hpolicy

/-- The degrees keep counting the edge ends. -/
theorem counted (h : Descends policies first n) (hfirst : first.street.content.Counted) :
    n.street.content.Counted := by
  refine h.invariant (I := fun n => n.street.content.Counted) hfirst ?_
  intro s baseline n policy hbaseline hrevised _
  have hn : n.street.content.Counted :=
    stable_of_applied StreetLayer.stable_counted (fun _ hs => hs.forgetChanges) hbaseline hrevised
  exact stable_rebuilt (fun _ hs => hs.withEdgeLists) hn s.scope policy

end Descends

/-! ## Complete linkages -/

/-- The linkage of the network agrees with itself. -/
def Coherent (n : Network) : Prop :=
  n.linkage.content.Coherent n.transit.content n.params.transferRadius

theorem coherent_build (street : StreetLayer) (transit : TransitLayer) (params : LinkageParams) :
    (build street transit params).Coherent :=
  (upToDate_build street transit params).linked.coherent

/-- A rebuild that links no stop anew is one without the transit layer. -/
theorem transit_of_no_selection {policy : RebuildPolicy} {region : Option Envelope}
    (h : policy.selection? scope region = none) : scope.transit = false := by
  rw [← Bool.not_eq_true]
  intro htransit
  cases policy <;> cases region <;> simp [RebuildPolicy.selection?, htransit] at h

/-- A rebuild of a revised copy leaves a coherent linkage, however little it links anew. -/
theorem coherent_rebuilt {policy : RebuildPolicy} (hbaseline : baseline.Coherent)
    (h : Revised baseline scope n) : (n.rebuilt scope policy).Coherent := by
  have hlinkage : n.linkage.content.Coherent baseline.transit.content n.params.transferRadius := by
    rw [h.linkage, h.params]
    exact hbaseline
  have hkept : scope.transit = false → n.Coherent := by
    intro hscope
    unfold Coherent
    rw [transit_of_revised h hscope]
    exact hlinkage
  have hextends : Extends (n.withLists scope).transit.content.stops
      baseline.transit.content.stops := by
    rw [stops_withLists]
    exact h.timetable
  -- accuracy is out of reach here: the changed area need not cover every stop that lost its vertex
  cases hempty : scope.isEmpty with
  | true =>
    have htransit : scope.transit = false := by grind [LayerScope.isEmpty]
    unfold rebuilt
    rw [hempty]
    exact hkept htransit
  | false =>
    cases policy with
    | full => exact (linked_rebuilt_full n hempty).coherent
    | «scoped» =>
      unfold rebuilt
      rw [hempty]
      cases hselection : RebuildPolicy.selection? .scoped scope (n.rebuildRegion? scope) with
      | some selection => exact Linkage.coherent_selected hlinkage hextends
      | none =>
        -- nothing is linked anew, so the stops must be those of the baseline
        have htransit := transit_of_no_selection hselection
        have hcoherent := hkept htransit
        simp only [Bool.false_eq_true, if_false]
        unfold Coherent withLists at *
        rw [htransit]
        exact hcoherent

theorem params_rebuilt {policy : RebuildPolicy} (h : Revised baseline scope n) :
    (n.rebuilt scope policy).params = baseline.params := by
  obtain ⟨-, -, hparams⟩ := rebuilt_layers n scope policy
  rw [hparams, h.params]
  rfl

/-- However scenarios are applied after a network was built, under either policy, the linkage covers
every stop and the transfers are those that the links allow. -/
theorem complete_of_descends (street : StreetLayer) (transit : TransitLayer)
    (params : LinkageParams) {n : Network}
    (h : Descends (fun _ => True) (build street transit params) n) :
    n.linkage.content.Complete n.transit.content params.transferRadius := by
  have hinvariant : n.Coherent ∧ n.params = params := by
    refine h.invariant (I := fun n => n.Coherent ∧ n.params = params)
      ⟨coherent_build street transit params, rfl⟩ ?_
    intro s baseline n policy hbaseline hrevised _
    have hcopy := revised_of_applied hrevised
    exact ⟨coherent_rebuilt hbaseline.1 hcopy, (params_rebuilt hcopy).trans hbaseline.2⟩
  obtain ⟨hcoherent, hparams⟩ := hinvariant
  rw [← hparams]
  exact hcoherent.complete

/-- The town with a new line has a complete linkage. -/
theorem complete_shuttle :
    ∃ applied, (Sample.shuttle.apply { policy := .scoped } Sample.town none).result = .ok applied ∧
      applied.network.linkage.content.Complete applied.network.transit.content 1000.0 := by
  obtain ⟨applied, hresult⟩ := Sample.apply_shuttle .scoped
  have hdescends : Descends (fun _ => True) Sample.town applied.network :=
    Descends.refl.apply trivial hresult
  exact ⟨applied, hresult, complete_of_descends (Sample.grid 5) Sample.twoLines {} hdescends⟩

/-! ## Nothing out of date -/

/-- Everything derived is what building makes of the layers, and no layer is waiting for its lists. -/
structure Current (n : Network) : Prop extends UpToDate n where
  edgeLists : n.street.content.edgeListsStale = false
  membershipLists : n.transit.content.membershipStale = false

theorem current_build (street : StreetLayer) (transit : TransitLayer) (params : LinkageParams) :
    (build street transit params).Current :=
  ⟨upToDate_build street transit params, rfl, rfl⟩

/-- A rebuild that links accurately leaves a current network: the layers out of scope are those of the
baseline, whose lists were current. -/
theorem current_rebuilt {policy : RebuildPolicy} (hbaseline : baseline.Current)
    (h : Revised baseline scope n) (hlinked : (n.rebuilt scope policy).Linked) :
    (n.rebuilt scope policy).Current := by
  obtain ⟨hstreet, htransit, -⟩ := rebuilt_layers n scope policy
  refine ⟨upToDate_rebuilt hbaseline.toUpToDate h hlinked, ?_, ?_⟩
  · rw [hstreet]
    unfold withLists
    cases hs : scope.street with
    | true => rfl
    | false =>
      simp only [Bool.false_eq_true, if_false]
      rw [street_of_revised h hs]
      exact hbaseline.edgeLists
  · rw [htransit]
    unfold withLists
    cases ht : scope.transit with
    | true => rfl
    | false =>
      simp only [Bool.false_eq_true, if_false]
      rw [transit_of_revised h ht]
      exact hbaseline.membershipLists

/-- Under the full policy a network that is current stays so. -/
theorem Descends.current {first : Network} (h : Descends (· = .full) first n)
    (hfirst : first.Current) : n.Current := by
  refine h.invariant hfirst ?_
  rintro s baseline n policy hbaseline hrevised rfl
  have hcopy := revised_of_applied hrevised
  refine current_rebuilt hbaseline hcopy ?_
  cases hempty : s.scope.isEmpty with
  | true => exact linked_rebuilt_empty hbaseline.linked hcopy hempty
  | false => exact linked_rebuilt_full n hempty

/-- However scenarios are applied under the full policy after a network was built, the lists, the
links, the trees and the transfers are those of a network built from the layers as they are now. -/
theorem current_of_descends (street : StreetLayer) (transit : TransitLayer)
    (params : LinkageParams) {n : Network}
    (h : Descends (· = .full) (build street transit params) n) : n.Current :=
  h.current (current_build street transit params)

/-- The town with a new line is current. -/
theorem current_shuttle :
    ∃ applied, (Sample.shuttle.apply { policy := .full } Sample.town none).result = .ok applied ∧
      applied.network.Current := by
  obtain ⟨applied, hresult⟩ := Sample.apply_shuttle .full
  have hdescends : Descends (· = .full) Sample.town applied.network :=
    Descends.refl.apply rfl hresult
  exact ⟨applied, hresult, current_of_descends (Sample.grid 5) Sample.twoLines {} hdescends⟩

end Network

end Multimodal
