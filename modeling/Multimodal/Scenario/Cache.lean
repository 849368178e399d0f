import Multimodal.Scenario.Application

/-! # A cache of modified networks

Scenarios with the same id are taken to be the same, so the network made for one serves for the next.
A cache belongs to one baseline and never drops a network by itself.

* `ScenarioCache`: the networks made so far, by scenario id.
* `ScenarioCache.getOrApply`: the cached network, or a new one.
-/

namespace Multimodal

/-- A network made by the cache, with the number of networks made before it. -/
structure MadeNetwork where
  number : Nat
  network : Network
  deriving DecidableEq

/-- The networks made from one baseline, by scenario id.  The checksum of the baseline is the one it
had when the cache was set up. -/
structure ScenarioCache where
  baseline : Network
  checksum : ContentHash
  entries : List (String × MadeNetwork) := []
  made : Nat := 0

namespace ScenarioCache

/-- An empty cache for a baseline. -/
def forBaseline (baseline : Network) : ScenarioCache where
  baseline := baseline
  checksum := baseline.checksum

/-- The network cached for an id. -/
def get? (c : ScenarioCache) (id : String) : Option MadeNetwork := c.entries.lookup id

/-- The cache without the network of an id. -/
def invalidate (c : ScenarioCache) (id : String) : ScenarioCache :=
  { c with entries := c.entries.filter (·.1 ≠ id) }

/-- The cache without any network. -/
def invalidateAll (c : ScenarioCache) : ScenarioCache := { c with entries := [] }

/-- The cache with a network for an id that had none. -/
def insert (c : ScenarioCache) (id : String) (m : MadeNetwork) : ScenarioCache :=
  { c with entries := (id, m) :: c.entries }

/-- The answer of the cache to a scenario: the cache and the scenario afterwards, the calls that were
made, and the network. -/
structure Reply (μ : Type) where
  cache : ScenarioCache
  scenario : Scenario μ
  calls : List Call
  result : Except ScenarioError MadeNetwork

variable {μ : Type} [Modifies μ]

/-- Applies a scenario and numbers the network made; the network is not kept. -/
def make (c : ScenarioCache) (config : ApplicationConfig) (s : Scenario μ) : Reply μ :=
  let application := s.apply config c.baseline (some c.checksum)
  match application.result with
  | .error e => ⟨c, application.scenario, application.calls, .error e⟩
  | .ok applied =>
    ⟨{ c with made := c.made + 1 }, application.scenario, application.calls,
      .ok ⟨c.made, applied.network⟩⟩

/-- The network for a scenario: the cached one, or a new one that is kept if the scenario has an id.  A
scenario without an id is always applied, and a failure is never kept. -/
def getOrApply (c : ScenarioCache) (config : ApplicationConfig) (s : Scenario μ) : Reply μ :=
  match s.id with
  | none => c.make config s
  | some id =>
    match c.get? id with
    | some m => ⟨c, s, [], .ok m⟩
    | none =>
      let reply := c.make config s
      match reply.result with
      | .error _ => reply
      | .ok m => { reply with cache := reply.cache.insert id m }

end ScenarioCache

end Multimodal
