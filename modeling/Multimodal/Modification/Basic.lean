import Multimodal.Modification.Streets
import Multimodal.Modification.Stops
import Multimodal.Modification.Trips

/-! # Modifications

A modification is one change to a network with the remarks of its author and those recorded while it
is resolved and applied.  It is resolved first, which looks at a network without changing it, and
applied later, which goes by what was found.

* `Modifies`: what the scenario engine asks of anything it can resolve and apply.
* `Change`, `Modification`: the eight built-in kinds.
-/

namespace Multimodal

/-- What the scenario engine asks of a modification.  Its sort order and its scope follow from its
parameters alone; `resolve` reads a network; `apply` may change the layers of the scope. -/
class Modifies (μ : Type) where
  /-- The kind, as reports name it. -/
  typeName : μ → String
  /-- Lower ones are applied first. -/
  sortOrder : μ → Int
  /-- The layers that applying it changes. -/
  scope : μ → LayerScope
  /-- Its comment and remarks. -/
  diagnostics : μ → Diagnostics
  /-- Looks up what it refers to. -/
  resolve : μ → Network → μ × Except StepFailure Unit
  /-- Changes a network. -/
  apply : μ → Network → μ × Network × Except StepFailure Unit

/-- Two families of modifications side by side. -/
instance {μ ν : Type} [Modifies μ] [Modifies ν] : Modifies (μ ⊕ ν) where
  typeName := Sum.elim Modifies.typeName Modifies.typeName
  sortOrder := Sum.elim Modifies.sortOrder Modifies.sortOrder
  scope := Sum.elim Modifies.scope Modifies.scope
  diagnostics := Sum.elim Modifies.diagnostics Modifies.diagnostics
  resolve
    | .inl m, n => let (m, r) := Modifies.resolve m n; (.inl m, r)
    | .inr m, n => let (m, r) := Modifies.resolve m n; (.inr m, r)
  apply
    | .inl m, n => let (m, n, r) := Modifies.apply m n; (.inl m, n, r)
    | .inr m, n => let (m, n, r) := Modifies.apply m n; (.inr m, n, r)

/-! ## The built-in kinds -/

/-- A change of one of the eight kinds, with what resolving it found. -/
inductive Change
  | modifyStreets (m : ModifyStreets)
  | removeStreets (m : RemoveStreets)
  | addStreets (m : AddStreets)
  | removeTrips (m : RemoveTrips)
  | removeStops (m : RemoveStops)
  | adjustSpeed (m : AdjustSpeed)
  | adjustDwellTime (m : AdjustDwellTime)
  | addTrips (m : AddTrips)
  deriving DecidableEq, Repr

namespace Change

/-- The name of the kind, which is also its tag in documents. -/
def typeName : Change → String
  | modifyStreets _ => "modify-streets"
  | removeStreets _ => "remove-streets"
  | addStreets _ => "add-streets"
  | removeTrips _ => "remove-trips"
  | removeStops _ => "remove-stops"
  | adjustSpeed _ => "adjust-speed"
  | adjustDwellTime _ => "adjust-dwell-time"
  | addTrips _ => "add-trips"

/-- Streets come before trips; among trips, removals come before adjustments and additions. -/
def sortOrder : Change → Int
  | modifyStreets _ => 10
  | removeStreets _ => 15
  | addStreets _ => 20
  | removeTrips _ => 30
  | removeStops _ => 40
  | adjustSpeed _ => 50
  | adjustDwellTime _ => 60
  | addTrips _ => 70

/-- Every kind changes exactly one layer. -/
def scope : Change → LayerScope
  | modifyStreets _ | removeStreets _ | addStreets _ => ⟨true, false⟩
  | removeTrips _ | removeStops _ | adjustSpeed _ | adjustDwellTime _ | addTrips _ => ⟨false, true⟩

/-- Looks up what the change refers to and answers what speaks against it. -/
def resolve (c : Change) (n : Network) : Change × List Remark :=
  let street := n.street.content
  let transit := n.transit.content
  match c with
  | modifyStreets m => let (m, problems) := m.resolve street; (modifyStreets m, problems)
  | removeStreets m => let (m, problems) := m.resolve street; (removeStreets m, problems)
  | addStreets m =>
    let (m, problems) := m.resolve street n.params.linkRadius
    (addStreets m, problems)
  | removeTrips m => let (m, problems) := m.resolve transit; (removeTrips m, problems)
  | removeStops m => let (m, problems) := m.resolve transit; (removeStops m, problems)
  | adjustSpeed m => let (m, problems) := m.resolve transit; (adjustSpeed m, problems)
  | adjustDwellTime m => let (m, problems) := m.resolve transit; (adjustDwellTime m, problems)
  | addTrips m => (addTrips m, m.problems transit)

/-- Makes the change. -/
def apply : Change → Step Network Unit
  | modifyStreets m => Step.onStreet m.apply
  | removeStreets m => Step.onStreet m.apply
  | addStreets m => m.apply
  | removeTrips m => Step.onTransit m.apply
  | removeStops m => Step.onTransit m.apply
  | adjustSpeed m => Step.onTransit m.apply
  | adjustDwellTime m => Step.onTransit m.apply
  | addTrips m => Step.onTransit m.apply

end Change

/-- A built-in modification. -/
structure Modification where
  change : Change
  diagnostics : Diagnostics := {}
  deriving DecidableEq, Repr

namespace Modification

/-- Resolves the change; every problem is recorded, and one is enough to fail. -/
def resolve (m : Modification) (n : Network) : Modification × Except StepFailure Unit :=
  let (change, problems) := m.change.resolve n
  let (diagnostics, result) := m.diagnostics.check problems
  (⟨change, diagnostics⟩, result)

/-- Applies the change. -/
def apply (m : Modification) (n : Network) : Modification × Network × Except StepFailure Unit :=
  match m.change.apply ⟨n, m.diagnostics⟩ with
  | .ok _ w => ({ m with diagnostics := w.diagnostics }, w.target, .ok ())
  | .error failure w => ({ m with diagnostics := w.diagnostics }, w.target, .error failure)

end Modification

instance : Modifies Modification where
  typeName m := m.change.typeName
  sortOrder m := m.change.sortOrder
  scope m := m.change.scope
  diagnostics := Modification.diagnostics
  resolve := Modification.resolve
  apply := Modification.apply

end Multimodal
