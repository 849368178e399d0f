import Multimodal.Modification.Remark

/-! # Applying step by step

While a modification is applied it changes a layer, or a whole network, and records remarks.  What it
had done before it failed stays done.

* `Worksite`, `Step`: what a step changes.
* `Step.edit`, `Step.warn`, `Step.fail`: the three things a step does.
* `Step.onStreet`, `Step.onTransit`: a step on one layer as a step on the network.
-/

namespace Multimodal

/-- What is being changed, with the remarks of the modification that changes it. -/
structure Worksite (σ : Type) where
  target : σ
  diagnostics : Diagnostics

/-- A step of applying a modification. -/
abbrev Step (σ α : Type) := EStateM StepFailure (Worksite σ) α

namespace Step

variable {σ α : Type}

/-- The target as it is now. -/
def target : Step σ σ := return (← get).target

/-- A change to the target; a refusal makes the step fail and is not recorded. -/
def edit (e : Edit σ α) : Step σ α := fun w =>
  match e w.target with
  | .ok a target => .ok a { w with target }
  | .error refusal target => .error ⟨.refused refusal, 0⟩ { w with target }

/-- Records a remark. -/
def warn (r : Remark) : Step σ Unit := modify fun w => { w with diagnostics := w.diagnostics.warn r }

/-- Records a remark and fails with it. -/
def fail (r : Remark) : Step σ α := fun w =>
  let (diagnostics, failure) := w.diagnostics.fail r
  .error failure { w with diagnostics }

/-- A step on the street layer of a network, refused if the layer is shared. -/
def onStreet (step : Step StreetLayer α) : Step Network α := fun w =>
  if w.target.street.shared then .error ⟨.refused (.partShared .street), 0⟩ w
  else
    match step ⟨w.target.street.content, w.diagnostics⟩ with
    | .ok a s => .ok a ⟨{ w.target with street := ⟨s.target, false⟩ }, s.diagnostics⟩
    | .error failure s => .error failure ⟨{ w.target with street := ⟨s.target, false⟩ }, s.diagnostics⟩

/-- A step on the transit layer of a network, refused if the layer is shared. -/
def onTransit (step : Step TransitLayer α) : Step Network α := fun w =>
  if w.target.transit.shared then .error ⟨.refused (.partShared .transit), 0⟩ w
  else
    match step ⟨w.target.transit.content, w.diagnostics⟩ with
    | .ok a t => .ok a ⟨{ w.target with transit := ⟨t.target, false⟩ }, t.diagnostics⟩
    | .error failure t =>
      .error failure ⟨{ w.target with transit := ⟨t.target, false⟩ }, t.diagnostics⟩

end Step

end Multimodal
