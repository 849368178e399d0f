import Multimodal.Network.Holdings
import Multimodal.Scenario.Application

/-! # Scenarios on held networks

A scenario applied to a held network makes another network, which is held beside it.  The two share
the parts that the scenario does not change.

* `Holdings.applyScenario?`: the application, and the holdings with its network.
-/

namespace Multimodal

/-- Applies a scenario to the network of one name and holds the network it makes under another; a
scenario that fails leaves nothing behind. -/
def Holdings.applyScenario? {μ : Type} [Modifies μ] (h : Holdings) (source name : String)
    (s : Scenario μ) (config : ApplicationConfig) (known : Option ContentHash) :
    Option (Application μ × Holdings) := do
  let application := s.apply config (← h.view? source) known
  match application.result with
  | .error _ => return (application, h)
  | .ok applied => return (application, h.adopt (← h.places? source) name applied.network)

end Multimodal
