import Multimodal.FeedTable

/-! # Does a scenario belong to a network?

A scenario names the feeds that its baseline was read from.  Applied to a network read from other
feeds its ids would mean other things, so the checksums must agree; if either side has none there is
nothing to compare.

* `verifyFeeds`: the comparison.
* `FeedCheck`, `FeedMismatch`: what it answers.
-/

namespace Multimodal

/-- Which side of the comparison has no checksums. -/
inductive FeedSide
  | scenario
  | network
  deriving DecidableEq, Repr

/-- The answer of a comparison that found no fault. -/
inductive FeedCheck
  | verified
  | unverifiable (lacking : FeedSide)
  deriving DecidableEq, Repr

/-- Why nothing was compared. -/
def FeedCheck.reason? : FeedCheck → Option String
  | verified => none
  | unverifiable .scenario => some "scenario does not have feed checksums"
  | unverifiable .network => some "network does not have feed checksums"

/-- Why a scenario does not belong to a network. -/
inductive FeedMismatch
  | count (scenario network : Nat)
  | unknown (feed : String)
  | checksum (feed : String) (scenario network : UInt64)
  deriving DecidableEq, Repr

/-- The wording of a mismatch. -/
def FeedMismatch.message : FeedMismatch → String
  | count scenario network => s!"scenario names {scenario} feeds but the network has {network}"
  | unknown feed => s!"scenario refers to feed {feed} not in the network"
  | checksum feed scenario network =>
    s!"checksum mismatch for feed {feed}: network {network}, scenario {scenario}"

/-- What keeps one feed of the scenario from being in the network. -/
def feedMismatch? (network : FeedTable) (feed : FeedEntry) : Option FeedMismatch :=
  match network.get? feed.1 with
  | none => some (.unknown feed.1)
  | some checksum => if checksum = feed.2 then none else some (.checksum feed.1 feed.2 checksum)

/-- Compares the feeds of a scenario with those of a network; of several mismatched feeds the one
with the lowest name is reported. -/
def verifyFeeds (scenario network : FeedTable) : Except FeedMismatch FeedCheck :=
  if scenario.isEmpty then .ok (.unverifiable .scenario)
  else if network.isEmpty then .ok (.unverifiable .network)
  else if scenario.size ≠ network.size then .error (.count scenario.size network.size)
  else
    match scenario.entries.findSome? (feedMismatch? network) with
    | none => .ok .verified
    | some mismatch => .error mismatch

end Multimodal
