import Multimodal.Modification.Basic

/-! # Scenarios

A scenario is a list of modifications that are applied together, with the checksums of the feeds that
its baseline was read from.

* `Scenario`: the scenario; `scope` is what its modifications change between them.
* `canonicalize`, `isCanonical`: the order in which modifications are applied.
-/

namespace Multimodal

/-! ## The order of modifications -/

section Order

variable {μ : Type} [Modifies μ]

/-- Whether a modification may stand before another. -/
def inOrder (a b : μ) : Bool := Modifies.sortOrder a ≤ Modifies.sortOrder b

/-- The modifications by ascending sort order; equal ones stay in the order they came in. -/
def canonicalize (ms : List μ) : List μ := ms.mergeSort inOrder

/-- Whether no modification has a lower sort order than the one before it. -/
def isCanonical : List μ → Bool
  | a :: b :: rest => inOrder a b && isCanonical (b :: rest)
  | _ => true

end Order

/-! ## Scenarios -/

/-- What a scenario is described as when nobody did. -/
def defaultDescription : String := "no description provided"

/-- Modifications to apply together to one baseline.  Scenarios with the same id are taken to hold the
same modifications. -/
structure Scenario (μ : Type) where
  id : Option String := none
  description : String := defaultDescription
  modifications : List μ := []
  feeds : FeedTable := {}
  deriving DecidableEq

namespace Scenario

/-- The scenario with every modification replaced. -/
def map {μ ν : Type} (f : μ → ν) (s : Scenario μ) : Scenario ν :=
  { s with modifications := s.modifications.map f }

variable {μ : Type} [Modifies μ]

/-- The layers that the modifications change between them. -/
def scope (s : Scenario μ) : LayerScope where
  street := s.modifications.any fun m => (Modifies.scope m).street
  transit := s.modifications.any fun m => (Modifies.scope m).transit

/-- The scenario with its modifications in the order of application. -/
def canonical (s : Scenario μ) : Scenario μ :=
  { s with modifications := canonicalize s.modifications }

end Scenario

end Multimodal
