import Multimodal.Network.Rebuild
import Multimodal.Scenario.Basic
import Multimodal.Scenario.Error

/-! # Applying a scenario

A scenario is applied to a copy of the baseline.  The feeds are compared; the modifications are put in
order; the layers that they change are copied; every modification is resolved against the copy as it
came; then all are applied in order up to the first failure; then everything derived is rebuilt.

* `ApplicationConfig`: the two choices a caller has.
* `resolveAll`, `applyAll`: the two rounds over the modifications.
* `Scenario.apply`: the whole application.
* `Application`: its outcome, with the scenario as it is afterwards and the calls in their order.
-/

namespace Multimodal

/-- Whether the baseline's checksum is compared afterwards, and how much is rebuilt. -/
structure ApplicationConfig where
  verifyBaseline : Bool := true
  policy : RebuildPolicy := .scoped
  deriving DecidableEq, Repr

/-- One call to a modification: the round and the position. -/
structure Call where
  phase : Phase
  position : Nat
  deriving DecidableEq, Repr

/-- A scenario that was applied. -/
structure Applied where
  network : Network
  feeds : FeedCheck
  rebuild : RebuildSummary
  baseline : BaselineCheck
  deriving DecidableEq

/-- The outcome of an application. -/
structure Application (μ : Type) where
  scenario : Scenario μ
  calls : List Call
  result : Except ScenarioError Applied

/-! ## The two rounds -/

section Rounds

variable {μ : Type} [Modifies μ]

/-- What is left of the modifications after a round, with the calls that were made. -/
structure Round (μ : Type) where
  modifications : List μ
  calls : List Call

namespace Round

/-- The round with one more modification in front, which was called first. -/
def after (r : Round μ) (m : μ) (call : Call) : Round μ :=
  ⟨m :: r.modifications, call :: r.calls⟩

end Round

/-- Resolves every modification, the first having number `i`, and reports those that fail. -/
def resolveAll (n : Network) : Nat → List μ → Round μ × List Report
  | _, [] => (⟨[], []⟩, [])
  | i, m :: rest =>
    let (m, result) := Modifies.resolve m n
    let (round, reports) := resolveAll n (i + 1) rest
    let round := round.after m ⟨.resolve, i⟩
    match result with
    | .ok () => (round, reports)
    | .error failure => (round, .capture i m failure :: reports)

/-- Applies the modifications in order, the first having number `i`, up to the first that fails. -/
def applyAll : Network → Nat → List μ → Round μ × Except Report Network
  | n, _, [] => (⟨[], []⟩, .ok n)
  | n, i, m :: rest =>
    let (m, n, result) := Modifies.apply m n
    match result with
    | .error failure => (⟨m :: rest, [⟨.apply, i⟩]⟩, .error (.capture i m failure))
    | .ok () =>
      let (round, outcome) := applyAll n (i + 1) rest
      (round.after m ⟨.apply, i⟩, outcome)

end Rounds

/-! ## The application -/

/-- Compares the baseline's checksum with the one that was known or taken before. -/
def checkBaseline (config : ApplicationConfig) (known : Option ContentHash) (baseline : Network) :
    BaselineCheck :=
  if config.verifyBaseline then
    let after := baseline.checksum
    let before := known.getD after
    if after = before then .unchanged else .changed before after
  else .skipped

namespace Scenario

variable {μ : Type} [Modifies μ]

/-- The rounds and the rebuild, on the copy that the scope asks for. -/
def applyInOrder (s : Scenario μ) (config : ApplicationConfig) (baseline : Network) :
    Scenario μ × List Call × Except ScenarioError (Network × RebuildSummary) :=
  let copy := baseline.scopedCopy s.scope
  match resolveAll copy 0 s.modifications with
  | (resolved, report :: reports) =>
    ({ s with modifications := resolved.modifications }, resolved.calls,
      .error (.invalid (report :: reports)))
  | (resolved, []) =>
    let (applied, outcome) := applyAll copy 0 resolved.modifications
    let after := { s with modifications := applied.modifications }
    let calls := resolved.calls ++ applied.calls
    match outcome with
    | .error report => (after, calls, .error (.applicationFailed report))
    | .ok n =>
      match Network.rebuild s.scope config.policy n with
      | .error e _ => (after, calls, .error (.rebuild e))
      | .ok summary n => (after, calls, .ok (n, summary))

/-- Applies the scenario to a copy of the baseline.  A caller that knows the baseline's checksum hands
it over instead of having it taken. -/
def apply (s : Scenario μ) (config : ApplicationConfig) (baseline : Network)
    (known : Option ContentHash) : Application μ :=
  match verifyFeeds s.feeds baseline.transit.content.feeds with
  | .error mismatch => ⟨s, [], .error (.integrity mismatch)⟩
  | .ok feeds =>
    let (after, calls, outcome) := s.canonical.applyInOrder config baseline
    let result := outcome.map fun (network, rebuild) =>
      { network, feeds, rebuild, baseline := checkBaseline config known baseline : Applied }
    ⟨after, calls, result⟩

end Scenario

end Multimodal
