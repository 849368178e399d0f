import Multimodal.Network.Basic

/-! # Rebuilding what is derived

After the layers of a copy were changed, everything derived from them is brought up to date.  A
changed street layer concerns all edge lists and the stops near the touched edges; a changed transit
layer concerns the membership lists and the stops that are new.

* `RebuildPolicy`: only what the change concerns, or everything.
* `RebuildSummary`: which stages ran.
* `Network.rebuild`: the stages in their order.
-/

namespace Multimodal

/-- How much is rebuilt: what the changed layers and the changed area require, or everything. -/
inductive RebuildPolicy
  | scoped
  | full
  deriving DecidableEq, Repr

/-- The name of a policy in settings. -/
def RebuildPolicy.name : RebuildPolicy → String
  | .scoped => "scoped"
  | .full => "full"

/-- The policy of a name. -/
def RebuildPolicy.ofName? (name : String) : Option RebuildPolicy :=
  [.scoped, .full].find? (·.name = name)

/-- What a rebuild did: which lists it built, the changed area widened by the tree radius, and how
many stops it linked and looked at for transfers. -/
structure RebuildSummary where
  edgeLists : Bool := false
  membership : Bool := false
  region : Option Envelope := none
  relinked : Nat := 0
  transferStops : Nat := 0
  deriving DecidableEq, Repr

/-- The stops that a rebuild links anew, if any. -/
def RebuildPolicy.selection? (policy : RebuildPolicy) (scope : LayerScope)
    (region : Option Envelope) : Option StopSelection :=
  match policy, region with
  | .full, _ => some .all
  | .scoped, some area => some (.pendingOrWithin area)
  | .scoped, none => if scope.transit then some .pending else none

namespace Network

/-- Links the selected stops and finds their transfers; answers how many stops each concerned. -/
def rebuildLinkage (policy : RebuildPolicy) (selection : StopSelection) :
    Edit Network (Nat × Nat) := do
  let dirty ← linkStops selection
  let transferStops ←
    match policy with
    | .full => findAllTransfers
    | .scoped => findTransfers dirty
  return (dirty.length, transferStops)

/-- Brings up to date what is derived from the layers in scope.  A stage that needs a part held by
somebody else is refused, and the stages before it stay done. -/
def rebuild (scope : LayerScope) (policy : RebuildPolicy) : Edit Network RebuildSummary := do
  if scope.isEmpty then return {}
  if scope.street then buildEdgeLists
  let n ← get
  let region := if scope.street then n.changedRegion? n.params.treeRadius else none
  if scope.transit then buildMembership
  let summary : RebuildSummary := { edgeLists := scope.street, membership := scope.transit, region }
  match policy.selection? scope region with
  | none => return summary
  | some selection =>
    let (relinked, transferStops) ← rebuildLinkage policy selection
    return { summary with relinked, transferStops }

end Network

end Multimodal
