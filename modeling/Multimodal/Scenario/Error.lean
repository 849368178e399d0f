import Multimodal.Modification.Basic
import Multimodal.Scenario.Feeds

/-! # Why a scenario could not be applied

* `Phase`: the phase that failed.
* `Report`: one modification that failed, with its remarks.
* `ScenarioError`: the error of an application, one per phase.
* `BaselineCheck`: whether the baseline is what it was.
-/

namespace Multimodal

/-- The phases of an application. -/
inductive Phase
  | integrity
  | resolve
  | apply
  | rebuild
  deriving DecidableEq, Repr

/-- The name of a phase. -/
def Phase.name : Phase → String
  | integrity => "integrity"
  | resolve => "resolve"
  | apply => "apply"
  | rebuild => "rebuild"

/-- A modification that failed: its place in the order of application, its kind, its comment, what was
recorded, and the failure. -/
structure Report where
  position : Nat
  typeName : String
  comment : Option String
  warnings : List Remark
  failure : StepFailure
  deriving DecidableEq, Repr

namespace Report

/-- The report on a modification as it is after its failure. -/
def capture {μ : Type} [Modifies μ] (position : Nat) (m : μ) (failure : StepFailure) : Report where
  position := position
  typeName := Modifies.typeName m
  comment := (Modifies.diagnostics m).comment
  warnings := (Modifies.diagnostics m).warnings
  failure := failure

/-- The report in one line. -/
def message (r : Report) : String :=
  let line := s!"#{r.position} {r.typeName}: {r.failure.reason}"
  match r.comment with
  | none => line
  | some comment => s!"{line} ({comment})"

end Report

/-- Why a scenario could not be applied. -/
inductive ScenarioError
  | integrity (mismatch : FeedMismatch)
  | invalid (reports : List Report)
  | applicationFailed (report : Report)
  | rebuild (e : NetworkError)
  deriving DecidableEq, Repr

namespace ScenarioError

/-- The phase that failed. -/
def phase : ScenarioError → Phase
  | integrity _ => .integrity
  | invalid _ => .resolve
  | applicationFailed _ => .apply
  | rebuild _ => .rebuild

/-- The modifications at fault. -/
def reports : ScenarioError → List Report
  | invalid reports => reports
  | applicationFailed report => [report]
  | integrity _ | rebuild _ => []

/-- The wording of an error. -/
def message : ScenarioError → String
  | integrity mismatch => s!"integrity check failed: {mismatch.message}"
  | invalid reports =>
    s!"scenario invalid: {reports.length} modification(s) failed to resolve"
  | applicationFailed report => s!"scenario application failed at {report.message}"
  | rebuild e => s!"rebuild failed: {e.message}"

end ScenarioError

/-- The comparison of the baseline before and after an application. -/
inductive BaselineCheck
  | unchanged
  | changed (before after : ContentHash)
  | skipped
  deriving DecidableEq, Repr

/-- The wording of a changed baseline. -/
def changedBaselineMessage (before after : ContentHash) : String :=
  s!"baseline checksum changed from {before.hex} to {after.hex}"

end Multimodal
