import Multimodal.Modification.Basic
import Multimodal.Network.Rebuild
import Multimodal.Proofs.Street.Edits
import Multimodal.Proofs.Transit.Edits

/-! # What a holder can make of a network

Whoever holds a network changes the parts that nobody else holds and leaves the rest as it is.  Every
change, every modification and the rebuild keep to this.

* `Part.Becomes`, `Network.Becomes`: what a part and a network can become through their holder.
* `Network.Reached`: the same for modifications, which keep the linkage, with a property of either
  layer.
* `Reached.apply`: what a built-in modification makes of a network.
-/

namespace Multimodal

/-! ## Parts -/

/-- What a part can become through its holder: who else holds it stays the same, and if somebody else
does, so does what it holds. -/
structure Part.Becomes {α : Type} (p q : Part α) : Prop where
  shared : q.shared = p.shared
  content : p.shared = true → q.content = p.content

namespace Part.Becomes

variable {α : Type} {p q r : Part α}

theorem refl (p : Part α) : p.Becomes p := ⟨rfl, fun _ => rfl⟩

theorem trans (hpq : p.Becomes q) (hqr : q.Becomes r) : p.Becomes r := by
  refine ⟨hqr.shared.trans hpq.shared, fun hp => ?_⟩
  have hq : q.shared = true := hpq.shared.trans hp
  exact (hqr.content hq).trans (hpq.content hp)

/-- A part that nobody else holds can become anything. -/
theorem of_own {a : α} (hp : ¬p.shared = true) : p.Becomes ⟨a, false⟩ := by
  refine ⟨?_, fun h => absurd h hp⟩
  show false = p.shared
  exact (Bool.eq_false_iff.2 hp).symm

end Part.Becomes

namespace Network

/-! ## Networks -/

/-- What a network can become through its holder. -/
structure Becomes (n m : Network) : Prop where
  street : n.street.Becomes m.street
  transit : n.transit.Becomes m.transit
  linkage : n.linkage.Becomes m.linkage
  params : m.params = n.params

/-- The last stage of a rebuild, after the lists are built. -/
def rebuildStops (scope : LayerScope) (policy : RebuildPolicy) (region : Option Envelope) :
    Edit Network RebuildSummary := do
  let summary : RebuildSummary := { edgeLists := scope.street, membership := scope.transit, region }
  match policy.selection? scope region with
  | none => return summary
  | some selection =>
    let (relinked, transferStops) ← rebuildLinkage policy selection
    return { summary with relinked, transferStops }

namespace Becomes

theorem refl (n : Network) : n.Becomes n :=
  ⟨Part.Becomes.refl _, Part.Becomes.refl _, Part.Becomes.refl _, rfl⟩

variable {n₀ : Network} {α : Type}

theorem editStreet (edit : Edit StreetLayer α) : Keeps (Becomes n₀) (editStreet edit) := by
  intro n hn
  unfold Network.editStreet
  by_cases hshared : n.street.shared = true
  · rw [if_pos hshared]
    exact hn
  · rw [if_neg hshared]
    cases edit n.street.content with
    | ok a street => exact { hn with street := hn.street.trans (Part.Becomes.of_own hshared) }
    | error e street => exact { hn with street := hn.street.trans (Part.Becomes.of_own hshared) }

theorem editTransit (edit : Edit TransitLayer α) : Keeps (Becomes n₀) (editTransit edit) := by
  intro n hn
  unfold Network.editTransit
  by_cases hshared : n.transit.shared = true
  · rw [if_pos hshared]
    exact hn
  · rw [if_neg hshared]
    cases edit n.transit.content with
    | ok a transit => exact { hn with transit := hn.transit.trans (Part.Becomes.of_own hshared) }
    | error e transit =>
      exact { hn with transit := hn.transit.trans (Part.Becomes.of_own hshared) }

theorem editLinkage (edit : Network → Linkage × α) : Keeps (Becomes n₀) (editLinkage edit) := by
  intro n hn
  unfold Network.editLinkage
  by_cases hshared : n.linkage.shared = true
  · rw [if_pos hshared]
    exact hn
  · rw [if_neg hshared]
    exact { hn with linkage := hn.linkage.trans (Part.Becomes.of_own hshared) }

theorem buildEdgeLists : Keeps (Becomes n₀) buildEdgeLists := editStreet _

theorem buildMembership : Keeps (Becomes n₀) buildMembership := editTransit _

theorem linkStops (selection : StopSelection) : Keeps (Becomes n₀) (linkStops selection) :=
  editLinkage _

theorem findTransfers (dirty : List StopIndex) : Keeps (Becomes n₀) (findTransfers dirty) :=
  editLinkage _

theorem findAllTransfers : Keeps (Becomes n₀) findAllTransfers := editLinkage _

theorem rebuildLinkage (policy : RebuildPolicy) (selection : StopSelection) :
    Keeps (Becomes n₀) (rebuildLinkage policy selection) := by
  refine Keeps.bind (linkStops selection) fun dirty => ?_
  cases policy with
  | full => exact Keeps.bind findAllTransfers fun _ => Keeps.pure
  | «scoped» => exact Keeps.bind (findTransfers dirty) fun _ => Keeps.pure

theorem rebuildStops (scope : LayerScope) (policy : RebuildPolicy) (region : Option Envelope) :
    Keeps (Becomes n₀) (rebuildStops scope policy region) := by
  unfold Network.rebuildStops
  cases policy.selection? scope region with
  | none => exact Keeps.pure
  | some selection => exact Keeps.bind (rebuildLinkage policy selection) fun _ => Keeps.pure

theorem rebuild (scope : LayerScope) (policy : RebuildPolicy) :
    Keeps (Becomes n₀) (rebuild scope policy) := by
  unfold Network.rebuild
  by_cases hempty : scope.isEmpty = true
  · rw [if_pos hempty]
    exact Keeps.pure
  · rw [if_neg hempty]
    have hmembership : ∀ region, Keeps (Becomes n₀)
        (if scope.transit then Network.buildMembership >>= fun _ =>
          Network.rebuildStops scope policy region
        else Network.rebuildStops scope policy region) := by
      intro region
      by_cases htransit : scope.transit = true
      · rw [if_pos htransit]
        exact Keeps.bind buildMembership fun _ => rebuildStops scope policy region
      · rw [if_neg htransit]
        exact rebuildStops scope policy region
    by_cases hstreet : scope.street = true
    · simp only [if_pos hstreet]
      exact Keeps.bind buildEdgeLists fun _ => Keeps.bind Keeps.get fun n => hmembership _
    · simp only [if_neg hstreet]
      exact Keeps.bind Keeps.get fun n => hmembership _

end Becomes

/-! ## Modifications -/

/-- What modifications can make of a network: its layers become what their holder can make of them
and have a property each; the linkage stays. -/
structure Reached (S : StreetLayer → Prop) (T : TransitLayer → Prop) (n m : Network) : Prop where
  street : n.street.Becomes m.street
  transit : n.transit.Becomes m.transit
  linkage : m.linkage = n.linkage
  params : m.params = n.params
  streets : S m.street.content
  timetable : T m.transit.content

namespace Reached

variable {S : StreetLayer → Prop} {T : TransitLayer → Prop} {n₀ n : Network} {α : Type}

theorem start (hs : S n.street.content) (ht : T n.transit.content) : Reached S T n n :=
  ⟨Part.Becomes.refl _, Part.Becomes.refl _, rfl, rfl, hs, ht⟩

theorem becomes (h : Reached S T n₀ n) : n₀.Becomes n := by
  refine ⟨h.street, h.transit, ?_, h.params⟩
  rw [h.linkage]
  exact Part.Becomes.refl _

/-- What a step on the streets guarantees when it fails, or the refusal of a shared street layer. -/
theorem onStreet {step : Step StreetLayer α} (h : Keeps (fun w => S w.target) step) :
    Keeps (fun w => Reached S T n₀ w.target) (Step.onStreet step) := by
  intro w hw
  unfold Step.onStreet
  by_cases hshared : w.target.street.shared = true
  · rw [if_pos hshared]
    exact hw
  · rw [if_neg hshared]
    have hstep := h ⟨w.target.street.content, w.diagnostics⟩ hw.streets
    cases hx : step ⟨w.target.street.content, w.diagnostics⟩ with
    | ok a s =>
      rw [hx] at hstep
      exact { hw with street := hw.street.trans (Part.Becomes.of_own hshared), streets := hstep }
    | error f s =>
      rw [hx] at hstep
      exact { hw with street := hw.street.trans (Part.Becomes.of_own hshared), streets := hstep }

/-- What a step on the timetable guarantees, with what is known of its failures. -/
theorem onTransit {F : StepFailure → Prop} {step : Step TransitLayer α}
    (h : Ensures (fun w => T w.target) step (fun _ w => T w.target)
      (fun f w => F f ∧ T w.target)) (hF : F ⟨.refused (.partShared .transit), 0⟩) :
    Ensures (fun w => Reached S T n₀ w.target) (Step.onTransit step)
      (fun _ w => Reached S T n₀ w.target) (fun f w => F f ∧ Reached S T n₀ w.target) := by
  intro w hw
  unfold Step.onTransit
  by_cases hshared : w.target.transit.shared = true
  · rw [if_pos hshared]
    exact ⟨hF, hw⟩
  · rw [if_neg hshared]
    have hstep := h ⟨w.target.transit.content, w.diagnostics⟩ hw.timetable
    cases hx : step ⟨w.target.transit.content, w.diagnostics⟩ with
    | ok a t =>
      rw [hx] at hstep
      exact
        { hw with transit := hw.transit.trans (Part.Becomes.of_own hshared), timetable := hstep }
    | error f t =>
      rw [hx] at hstep
      exact ⟨hstep.1,
        { hw with transit := hw.transit.trans (Part.Becomes.of_own hshared),
                  timetable := hstep.2 }⟩

theorem onTransit_keeps {step : Step TransitLayer α} (h : Keeps (fun w => T w.target) step) :
    Keeps (fun w => Reached S T n₀ w.target) (Step.onTransit step) := by
  have hstep := h.mono (fun _ hw => hw) (fun _ _ hw => hw) fun f w hw => And.intro trivial hw
  exact (onTransit (F := fun _ => True) hstep trivial).mono (fun _ hw => hw) (fun _ _ hw => hw)
    fun f w hw => hw.2

theorem change (hS : StreetLayer.Stable S) (hT : TransitLayer.Stable T) (c : Change) :
    Keeps (fun w => Reached S T n₀ w.target) c.apply := by
  cases c with
  | modifyStreets m => exact onStreet (hS.modifyStreets m)
  | removeStreets m => exact onStreet (hS.removeStreets m)
  | addStreets m =>
    show Keeps _ (AddStreets.apply m)
    unfold AddStreets.apply
    cases m.endPoints with
    | none => exact Keeps.fail
    | some ends => exact onStreet (hS.lay m ends.1 ends.2)
  | removeTrips m => exact onTransit_keeps (hT.removeTrips m)
  | removeStops m => exact onTransit_keeps (hT.removeStops m)
  | adjustSpeed m => exact onTransit_keeps (hT.adjustSpeed m)
  | adjustDwellTime m => exact onTransit_keeps (hT.revisePatterns m.foundRoutes m.redwell)
  | addTrips m => exact onTransit_keeps (hT.addTrips m)

theorem apply (hS : StreetLayer.Stable S) (hT : TransitLayer.Stable T) (m : Modification)
    (h : Reached S T n₀ n) : Reached S T n₀ (m.apply n).2.1 := by
  have hchange : Keeps (fun w => Reached S T n₀ w.target) m.change.apply := change hS hT m.change
  exact hchange.of_apply h

end Reached

end Network

end Multimodal
