import Multimodal.Modification.Basic
import Multimodal.Proofs.Alike
import Multimodal.Proofs.Effect

/-! # Every kind has its layer

Three kinds of modification change the streets, the other five the timetable.  A kind looks at its own
layer only, when it is resolved and when it is applied, and leaves the other layer as it is.

* `Change.isStreet`: which of the two layers is a change's own; `Change.scope_eq` is what it declares.
* `Network.layer`: a network seen through one layer.
* `Modification.resolve_of_layer`, `Modification.apply_of_layer`: nothing else is looked at.
* `Modification.layer_apply`: the other layer stays.
-/

namespace Multimodal

/-- Whether the change is one of the streets; all others are of the timetable. -/
def Change.isStreet : Change → Bool
  | modifyStreets _ | removeStreets _ | addStreets _ => true
  | removeTrips _ | removeStops _ | adjustSpeed _ | adjustDwellTime _ | addTrips _ => false

/-- What a change declares is its own layer. -/
theorem Change.scope_eq (c : Change) : c.scope = ⟨c.isStreet, !c.isStreet⟩ := by
  cases c <;> rfl

theorem Change.isStreet_resolve (c : Change) (n : Network) :
    (c.resolve n).1.isStreet = c.isStreet := by
  cases c <;> rfl

theorem Modification.isStreet_resolve (m : Modification) (n : Network) :
    (m.resolve n).1.change.isStreet = m.change.isStreet := m.change.isStreet_resolve n

/-- One layer of a network, with who else holds it: the streets or the timetable. -/
def Network.layer (n : Network) (streets : Bool) : Part StreetLayer ⊕ Part TransitLayer :=
  if streets then .inl n.street else .inr n.transit

/-! ## Steps on one layer -/

section Steps

variable {α : Type}

theorem Step.alike_onStreet (step : Step StreetLayer α) :
    Alike (Worksite.Related fun n m => n.layer true = m.layer true) Eq (onStreet step)
      (onStreet step) := by
  intro w w' h
  have hstreet : w.target.street = w'.target.street := Sum.inl.inj h.target
  unfold onStreet
  rw [hstreet, h.diagnostics]
  by_cases hshared : w'.target.street.shared = true
  · rw [if_pos hshared, if_pos hshared]
    exact ⟨rfl, h⟩
  · rw [if_neg hshared, if_neg hshared]
    cases step ⟨w'.target.street.content, w'.diagnostics⟩ with
    | ok a s => exact ⟨rfl, rfl, rfl⟩
    | error f s => exact ⟨rfl, rfl, rfl⟩

theorem Step.alike_onTransit (step : Step TransitLayer α) :
    Alike (Worksite.Related fun n m => n.layer false = m.layer false) Eq (onTransit step)
      (onTransit step) := by
  intro w w' h
  have htransit : w.target.transit = w'.target.transit := Sum.inr.inj h.target
  unfold onTransit
  rw [htransit, h.diagnostics]
  by_cases hshared : w'.target.transit.shared = true
  · rw [if_pos hshared, if_pos hshared]
    exact ⟨rfl, h⟩
  · rw [if_neg hshared, if_neg hshared]
    cases step ⟨w'.target.transit.content, w'.diagnostics⟩ with
    | ok a t => exact ⟨rfl, rfl, rfl⟩
    | error f t => exact ⟨rfl, rfl, rfl⟩

variable {l : Part StreetLayer ⊕ Part TransitLayer}

theorem Step.keeps_onStreet (step : Step StreetLayer α) :
    Keeps (fun w => w.target.layer false = l) (onStreet step) := by
  intro w hw
  unfold onStreet
  by_cases hshared : w.target.street.shared = true
  · rw [if_pos hshared]
    exact hw
  · rw [if_neg hshared]
    cases step ⟨w.target.street.content, w.diagnostics⟩ with
    | ok a s => exact hw
    | error f s => exact hw

theorem Step.keeps_onTransit (step : Step TransitLayer α) :
    Keeps (fun w => w.target.layer true = l) (onTransit step) := by
  intro w hw
  unfold onTransit
  by_cases hshared : w.target.transit.shared = true
  · rw [if_pos hshared]
    exact hw
  · rw [if_neg hshared]
    cases step ⟨w.target.transit.content, w.diagnostics⟩ with
    | ok a t => exact hw
    | error f t => exact hw

end Steps

/-! ## Changes -/

namespace Change

/-- Networks that agree in the layer of a change are changed alike in it. -/
theorem alike_apply_of_layer (c : Change) :
    Alike (Worksite.Related fun n m => n.layer c.isStreet = m.layer c.isStreet) Eq c.apply
      c.apply := by
  cases c with
  | modifyStreets m => exact Step.alike_onStreet m.apply
  | removeStreets m => exact Step.alike_onStreet m.apply
  | addStreets m =>
    show Alike _ _ (AddStreets.apply m) (AddStreets.apply m)
    unfold AddStreets.apply
    cases m.endPoints with
    | none => exact Alike.fail
    | some ends => exact Step.alike_onStreet (m.lay ends.1 ends.2)
  | removeTrips m => exact Step.alike_onTransit m.apply
  | removeStops m => exact Step.alike_onTransit m.apply
  | adjustSpeed m => exact Step.alike_onTransit m.apply
  | adjustDwellTime m => exact Step.alike_onTransit m.apply
  | addTrips m => exact Step.alike_onTransit m.apply

/-- A change keeps the layer that is not its own. -/
theorem keeps_layer (c : Change) (l : Part StreetLayer ⊕ Part TransitLayer) :
    Keeps (fun w => w.target.layer (!c.isStreet) = l) c.apply := by
  cases c with
  | modifyStreets m => exact Step.keeps_onStreet m.apply
  | removeStreets m => exact Step.keeps_onStreet m.apply
  | addStreets m =>
    show Keeps _ (AddStreets.apply m)
    unfold AddStreets.apply
    cases m.endPoints with
    | none => exact Keeps.fail (I := fun n : Network => n.layer false = l)
    | some ends => exact Step.keeps_onStreet (m.lay ends.1 ends.2)
  | removeTrips m => exact Step.keeps_onTransit m.apply
  | removeStops m => exact Step.keeps_onTransit m.apply
  | adjustSpeed m => exact Step.keeps_onTransit m.apply
  | adjustDwellTime m => exact Step.keeps_onTransit m.apply
  | addTrips m => exact Step.keeps_onTransit m.apply

/-- Networks that agree in the layer of a change, and in the radii, answer it alike. -/
theorem resolve_of_layer (c : Change) {n m : Network} (h : n.layer c.isStreet = m.layer c.isStreet)
    (hparams : n.params = m.params) : c.resolve n = c.resolve m := by
  cases c with
  | modifyStreets x | removeStreets x | addStreets x =>
    have hstreet : n.street = m.street := Sum.inl.inj h
    unfold resolve
    rw [hstreet, hparams]
  | removeTrips x | removeStops x | adjustSpeed x | adjustDwellTime x | addTrips x =>
    have htransit : n.transit = m.transit := Sum.inr.inj h
    unfold resolve
    rw [htransit]

end Change

/-! ## Modifications -/

namespace Modification

theorem resolve_of_layer (x : Modification) {n m : Network}
    (h : n.layer x.change.isStreet = m.layer x.change.isStreet) (hparams : n.params = m.params) :
    x.resolve n = x.resolve m := by
  unfold resolve
  rw [x.change.resolve_of_layer h hparams]

theorem apply_of_layer (x : Modification) {n m : Network}
    (h : n.layer x.change.isStreet = m.layer x.change.isStreet) :
    (x.apply n).1 = (x.apply m).1 ∧ (x.apply n).2.2 = (x.apply m).2.2 ∧
      (x.apply n).2.1.layer x.change.isStreet = (x.apply m).2.1.layer x.change.isStreet := by
  have halike := x.change.alike_apply_of_layer ⟨n, x.diagnostics⟩ ⟨m, x.diagnostics⟩ ⟨h, rfl⟩
  unfold apply
  -- success or failure, both sides end with the same diagnostics
  rcases halike.cases with ⟨a, w, b, w', hn, hm, -, hw⟩ | ⟨e, w, w', hn, hm, hw⟩
  · rw [hn, hm]
    exact ⟨congrArg (Modification.mk _) hw.diagnostics, rfl, hw.target⟩
  · rw [hn, hm]
    exact ⟨congrArg (Modification.mk _) hw.diagnostics, rfl, hw.target⟩

theorem layer_apply (x : Modification) (n : Network) :
    (x.apply n).2.1.layer (!x.change.isStreet) = n.layer (!x.change.isStreet) :=
  (x.change.keeps_layer (n.layer (!x.change.isStreet))).of_apply rfl

end Modification

end Multimodal
