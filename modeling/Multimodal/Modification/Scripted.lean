import Multimodal.Modification.Basic

/-! # Scripted modifications

A stand-in for a modification whose behaviour is written down beforehand: what it declares, what it
asks to change, and where it refuses.  It leaves the content of a network as it is, and so shows how
the scenario engine deals with any outcome.

* `Scripted`: the script.
* `Scripted.recording`: one that names itself in its comment and changes what it declares.
-/

namespace Multimodal

/-- The two steps of a modification. -/
inductive StepKind
  | resolve
  | apply
  deriving DecidableEq, Repr

/-- The name of a step. -/
def StepKind.name : StepKind → String
  | resolve => "resolve"
  | apply => "apply"

/-- A scripted modification: `scope` is what it declares, `touches` what it asks to change, and
`refuses` the step that it fails at. -/
structure Scripted where
  typeName : String
  label : String
  sortOrder : Int
  scope : LayerScope
  touches : LayerScope
  refuses : Option StepKind := none
  diagnostics : Diagnostics := {}
  deriving DecidableEq, Repr

namespace Scripted

/-- A script under a label that asks to change what it declares. -/
def recording (label : String) (sortOrder : Int) (scope : LayerScope) (refuses : Option StepKind) :
    Scripted where
  typeName := "recording"
  label := label
  sortOrder := sortOrder
  scope := scope
  touches := scope
  refuses := refuses
  diagnostics := { comment := some s!"recording {label}" }

/-- The failure at a step that the script refuses. -/
def refusal (m : Scripted) (step : StepKind) : Remark :=
  .note s!"{m.label} refused to {step.name}"

/-- Asks for the layers that are touched, the street layer first. -/
def touch (m : Scripted) : Edit Network Unit := do
  if m.touches.street then Network.editStreet (pure ())
  if m.touches.transit then Network.editTransit (pure ())

/-- Fails if the script says so. -/
def resolve (m : Scripted) (_ : Network) : Scripted × Except StepFailure Unit :=
  if m.refuses = some .resolve then
    let (diagnostics, failure) := m.diagnostics.fail (m.refusal .resolve)
    ({ m with diagnostics }, .error failure)
  else (m, .ok ())

/-- Fails if the script says so, and otherwise asks for the layers. -/
def apply (m : Scripted) (n : Network) : Scripted × Network × Except StepFailure Unit :=
  if m.refuses = some .apply then
    let (diagnostics, failure) := m.diagnostics.fail (m.refusal .apply)
    ({ m with diagnostics }, n, .error failure)
  else
    match m.touch n with
    | .ok _ n => (m, n, .ok ())
    | .error e n => (m, n, .error ⟨.refused e, 0⟩)

end Scripted

instance : Modifies Scripted where
  typeName := Scripted.typeName
  sortOrder := Scripted.sortOrder
  scope := Scripted.scope
  diagnostics := Scripted.diagnostics
  resolve := Scripted.resolve
  apply := Scripted.apply

end Multimodal
