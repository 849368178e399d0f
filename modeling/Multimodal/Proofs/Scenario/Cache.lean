import Mathlib
import Multimodal.Modification.Scripted
import Multimodal.Proofs.Network.Isolation
import Multimodal.Proofs.Scenario.Rounds
import Multimodal.Scenario.Cache

/-! # A cache is transparent

A cache answers requests one after the other.  What it holds for an id can be read off the requests
and its answers: the network that the first successful application under the id made since the id was
last invalidated.  So as long as an id stands for one scenario, asking the cache and applying the
scenario are the same.

* `CacheRequest`, `CacheEvent`, `ScenarioCache.serveAll`: requests and what came of them.
* `firstKept`: what a history of requests has left for an id.
* `ScenarioCache.Transparent`: what a cache promises after such a history.
* `ScenarioCache.transparent_of_requests`: it keeps the promise after every history.
-/

namespace Multimodal

/-! ## Requests -/

/-- One request to a cache. -/
inductive CacheRequest (μ : Type)
  | getOrApply (s : Scenario μ)
  | get (id : String)
  | invalidate (id : String)
  | invalidateAll

/-- A request with its answer; an answer to a scenario has the scenario as it is afterwards and the
calls that were made to its modifications. -/
inductive CacheEvent (μ : Type)
  | answered (s after : Scenario μ) (calls : List Call) (result : Except ScenarioError MadeNetwork)
  | looked (id : String) (found : Option MadeNetwork)
  | invalidated (id : String)
  | cleared

namespace CacheEvent

variable {μ : Type}

/-- Whether the event invalidates what is held for an id. -/
def covers (id : String) : CacheEvent μ → Bool
  | invalidated other => other = id
  | cleared => true
  | answered .. | looked .. => false

/-- The network of a successful answer to a scenario with this id. -/
def success? (id : String) : CacheEvent μ → Option MadeNetwork
  | answered s _ _ (.ok m) => if s.id = some id then some m else none
  | _ => none

/-- The network that the event hands out. -/
def network? : CacheEvent μ → Option MadeNetwork
  | answered _ _ _ (.ok m) => some m
  | looked _ found => found
  | _ => none

/-- The scenario that was asked for. -/
def scenario? : CacheEvent μ → Option (Scenario μ)
  | answered s _ _ _ => some s
  | _ => none

end CacheEvent

section Histories

variable {μ : Type}

/-- What happened since the id was last invalidated. -/
def sinceInvalidation (id : String) (events : List (CacheEvent μ)) : List (CacheEvent μ) :=
  (events.reverse.takeWhile (!·.covers id)).reverse

/-- The network of the first success under the id since the id was last invalidated. -/
def firstKept (id : String) (events : List (CacheEvent μ)) : Option MadeNetwork :=
  (sinceInvalidation id events).findSome? (·.success? id)

/-- Requests with the same id were made with the same scenario. -/
def OneScenarioPerId (events : List (CacheEvent μ)) : Prop :=
  ∀ event ∈ events, ∀ other ∈ events, ∀ s s' : Scenario μ, event.scenario? = some s →
    other.scenario? = some s' → s.id ≠ none → s'.id = s.id → s' = s

theorem OneScenarioPerId.of_append {events more : List (CacheEvent μ)}
    (h : OneScenarioPerId (events ++ more)) : OneScenarioPerId events :=
  fun event hevent other hother =>
    h event (List.mem_append_left more hevent) other (List.mem_append_left more hother)

theorem firstKept_append (id : String) (events : List (CacheEvent μ)) (event : CacheEvent μ) :
    firstKept id (events ++ [event]) =
      if event.covers id then none else (firstKept id events).or (event.success? id) := by
  unfold firstKept sinceInvalidation
  rw [List.reverse_append, List.reverse_singleton, List.singleton_append, List.takeWhile_cons]
  by_cases hcovers : event.covers id = true
  · simp [hcovers]
  · cases hsuccess : event.success? id <;>
      simp [hcovers, List.findSome?_append, hsuccess]

end Histories

namespace ScenarioCache

variable {μ : Type} [Modifies μ] {config : ApplicationConfig} {baseline : Network}
  {c : ScenarioCache} {events : List (CacheEvent μ)} {s : Scenario μ} {id : String}

def serve (config : ApplicationConfig) (c : ScenarioCache) :
    CacheRequest μ → ScenarioCache × CacheEvent μ
  | .getOrApply s =>
    let reply := c.getOrApply config s
    (reply.cache, .answered s reply.scenario reply.calls reply.result)
  | .get id => (c, .looked id (c.get? id))
  | .invalidate id => (c.invalidate id, .invalidated id)
  | .invalidateAll => (c.invalidateAll, .cleared)

/-- The cache after some requests, and what came of each. -/
def serveAll (config : ApplicationConfig) (c : ScenarioCache) :
    List (CacheRequest μ) → ScenarioCache × List (CacheEvent μ)
  | [] => (c, [])
  | request :: requests =>
    let (c, event) := c.serve config request
    let (c, events) := c.serveAll config requests
    (c, event :: events)

/-! ## Single operations -/

theorem get?_invalidate (c : ScenarioCache) (id other : String) :
    (c.invalidate id).get? other = if other = id then none else c.get? other := by
  unfold get? invalidate
  split
  · rename_i hid
    rw [List.lookup_eq_none_iff]
    intro entry hentry
    have hne : entry.1 ≠ id := by simpa using (List.mem_filter.1 hentry).2
    simpa [hid] using hne.symm
  · rename_i hid
    exact Holdings.lookup_filter_ne hid c.entries

theorem get?_insert (c : ScenarioCache) (id other : String) (m : MadeNetwork) :
    (c.insert id m).get? other = if other = id then some m else c.get? other := by
  unfold get? insert
  rw [List.lookup_cons]
  by_cases hid : other = id
  · rw [if_pos hid, beq_iff_eq.2 hid]
  · rw [if_neg hid, beq_false_of_ne hid]

/-- The cache after a network was made: it keeps the network if there is an id for it. -/
def keep (c : ScenarioCache) (id : Option String) (m : MadeNetwork) : ScenarioCache :=
  match id with
  | none => { c with made := c.made + 1 }
  | some id => { c with made := c.made + 1 }.insert id m

theorem get?_keep (c : ScenarioCache) (id : Option String) (other : String) (m : MadeNetwork) :
    (c.keep id m).get? other = if id = some other then some m else c.get? other := by
  cases id with
  | none => rfl
  | some id =>
    rw [keep, get?_insert]
    simp only [Option.some.injEq, eq_comm (a := id)]
    rfl

/-- What a cache answers to a scenario: what it holds, or else what an application leads to. -/
inductive Answer (config : ApplicationConfig) (c : ScenarioCache) (s : Scenario μ) : Reply μ → Prop
  | hit {id : String} {m : MadeNetwork} (hid : s.id = some id) (hheld : c.get? id = some m) :
      Answer config c s ⟨c, s, [], .ok m⟩
  | failed {e : ScenarioError} (hmiss : s.id.bind c.get? = none)
      (hfails : (s.apply config c.baseline (some c.checksum)).result = .error e) :
      Answer config c s ⟨c, (s.apply config c.baseline (some c.checksum)).scenario,
        (s.apply config c.baseline (some c.checksum)).calls, .error e⟩
  | made {applied : Applied} (hmiss : s.id.bind c.get? = none)
      (happly : (s.apply config c.baseline (some c.checksum)).result = .ok applied) :
      Answer config c s ⟨c.keep s.id ⟨c.made, applied.network⟩,
        (s.apply config c.baseline (some c.checksum)).scenario,
        (s.apply config c.baseline (some c.checksum)).calls, .ok ⟨c.made, applied.network⟩⟩

theorem getOrApply_of_held {m : MadeNetwork} (hid : s.id = some id) (hheld : c.get? id = some m) :
    c.getOrApply config s = ⟨c, s, [], .ok m⟩ := by
  unfold getOrApply
  rw [hid]
  simp only [hheld]

theorem answer_getOrApply (config : ApplicationConfig) (c : ScenarioCache) (s : Scenario μ) :
    Answer config c s (c.getOrApply config s) := by
  cases hheld : s.id.bind c.get? with
  | some m =>
    obtain ⟨id, hid, hm⟩ := Option.bind_eq_some_iff.1 hheld
    rw [getOrApply_of_held hid hm]
    exact .hit hid hm
  | none =>
    cases hresult : (s.apply config c.baseline (some c.checksum)).result with
    | error e =>
      have hmake : c.getOrApply config s =
          ⟨c, (s.apply config c.baseline (some c.checksum)).scenario,
            (s.apply config c.baseline (some c.checksum)).calls, .error e⟩ := by
        unfold getOrApply make
        cases hid : s.id with
        | none => simp only [hresult]
        | some id =>
          rw [hid, Option.bind_some] at hheld
          simp only [hheld, hresult]
      rw [hmake]
      exact .failed hheld hresult
    | ok applied =>
      have hmake : c.getOrApply config s =
          ⟨c.keep s.id ⟨c.made, applied.network⟩,
            (s.apply config c.baseline (some c.checksum)).scenario,
            (s.apply config c.baseline (some c.checksum)).calls,
            .ok ⟨c.made, applied.network⟩⟩ := by
        unfold getOrApply make
        cases hid : s.id with
        | none =>
          simp only [hresult]
          rfl
        | some id =>
          rw [hid, Option.bind_some] at hheld
          simp only [hheld, hresult]
          rfl
      rw [hmake]
      exact .made hheld hresult

/-- What applying a scenario to the baseline leads to, without a cache. -/
def direct (config : ApplicationConfig) (baseline : Network) (s : Scenario μ) :
    Except ScenarioError Network :=
  (s.apply config baseline none).result.map (·.network)

/-- A checksum that is handed over does not matter for the network. -/
theorem direct_eq (config : ApplicationConfig) (baseline : Network) (s : Scenario μ)
    (known : Option ContentHash) :
    (s.apply config baseline known).result.map (·.network) = direct config baseline s := by
  unfold direct
  rw [Scenario.apply_result, Scenario.apply_result]
  cases verifyFeeds s.feeds baseline.transit.content.feeds with
  | error mismatch => simp only [Except.map]
  | ok feeds =>
    cases (s.canonical.applyInOrder config baseline).2.2 with
    | error e => simp only [Except.map]
    | ok result => simp only [Except.map]

/-! ## Histories -/

/-- What a cache holds and has made, read off its history. -/
structure Records (config : ApplicationConfig) (baseline : Network) (c : ScenarioCache)
    (events : List (CacheEvent μ)) : Prop where
  base : c.baseline = baseline
  kept : ∀ id, c.get? id = firstKept id events
  numbered : ∀ event ∈ events, ∀ m, event.network? = some m → m.number < c.made
  sources : ∀ id m, c.get? id = some m → ∃ event ∈ events, ∃ s : Scenario μ,
    event.scenario? = some s ∧ s.id = some id ∧ direct config baseline s = .ok m.network
  answers : OneScenarioPerId events → ∀ event ∈ events, ∀ (s after : Scenario μ) calls result,
    event = .answered s after calls result →
      result.map (·.network) = direct config baseline s

theorem records_forBaseline (config : ApplicationConfig) (baseline : Network) :
    Records config baseline (forBaseline baseline) ([] : List (CacheEvent μ)) where
  base := rfl
  kept _ := rfl
  numbered _ h := absurd h List.not_mem_nil
  sources _ _ h := nomatch h
  answers _ _ h := absurd h List.not_mem_nil

theorem Records.held_number_lt (h : Records config baseline c events) {m : MadeNetwork}
    (hheld : c.get? id = some m) : m.number < c.made := by
  rw [h.kept] at hheld
  obtain ⟨event, hevent, hsuccess⟩ := List.exists_of_findSome?_eq_some hheld
  have hmem : event ∈ events := by
    have := List.mem_reverse.1 hevent
    exact List.mem_reverse.1 (List.takeWhile_subset _ this)
  refine h.numbered event hmem m ?_
  unfold CacheEvent.success? at hsuccess
  split at hsuccess
  · simpa [CacheEvent.network?] using (Option.ite_none_right_eq_some.1 hsuccess).2
  · cases hsuccess

/-- What the cache answers to a scenario that is the only one under its id. -/
theorem Records.agrees (h : Records config baseline c events) (s : Scenario μ)
    (hsame : ∀ event ∈ events, ∀ other, event.scenario? = some other → s.id ≠ none →
      other.id = s.id → other = s) :
    (c.getOrApply config s).result.map (·.network) = direct config baseline s := by
  have hanswer := answer_getOrApply config c s
  have hdirect := direct_eq config baseline s (some c.checksum)
  rw [← h.base] at hdirect ⊢
  generalize c.getOrApply config s = reply at hanswer ⊢
  cases hanswer with
  | @hit id m hid hheld =>
    obtain ⟨event, hevent, other, hother, hid', hsource⟩ := h.sources id m hheld
    have hs : other = s := hsame event hevent other hother (by simp [hid]) (hid'.trans hid.symm)
    rw [← hs, h.base, hsource]
    rfl
  | failed hmiss hfails =>
    rw [← hdirect, hfails]
    rfl
  | made hmiss happly =>
    rw [← hdirect, happly]
    rfl

/-- The last event of a history, if it is an answer, agrees with the direct application. -/
theorem Records.answers_append (h : Records config baseline c events) {event : CacheEvent μ}
    (hevent : ∀ (s after : Scenario μ) calls result, event = .answered s after calls result →
      result = (c.getOrApply config s).result)
    (hone : OneScenarioPerId (events ++ [event])) :
    ∀ other ∈ events ++ [event], ∀ (s after : Scenario μ) calls result,
      other = .answered s after calls result →
        result.map (·.network) = direct config baseline s := by
  intro other hother s after calls result hanswered
  rcases List.mem_append.1 hother with hother | hother
  · exact h.answers hone.of_append other hother s after calls result hanswered
  · obtain rfl := List.mem_singleton.1 hother
    rw [hevent s after calls result hanswered]
    refine h.agrees s fun earlier hearlier s' hs' hid hsame => ?_
    refine hone other (List.mem_append_right _ hother) earlier (List.mem_append_left _ hearlier)
      s s' ?_ hs' hid hsame
    rw [hanswered]
    rfl

/-- An event that hands out nothing new is added to the history. -/
theorem Records.add (h : Records config baseline c events) {c' : ScenarioCache}
    {event : CacheEvent μ} (hbaseline : c'.baseline = c.baseline) (hmade : c'.made = c.made)
    (hkept : ∀ id, c'.get? id =
      if event.covers id then none else (c.get? id).or (event.success? id))
    (hheld : ∀ id m, c'.get? id = some m → c.get? id = some m)
    (hnumber : ∀ m, event.network? = some m → m.number < c.made)
    (hevent : ∀ (s after : Scenario μ) calls result, event = .answered s after calls result →
      result = (c.getOrApply config s).result) :
    Records config baseline c' (events ++ [event]) where
  base := hbaseline.trans h.base
  kept id := by rw [firstKept_append, hkept, h.kept]
  numbered other hother m hm := by
    rw [hmade]
    rcases List.mem_append.1 hother with hother | hother
    · exact h.numbered other hother m hm
    · rw [List.mem_singleton.1 hother] at hm
      exact hnumber m hm
  sources id m hm := by
    obtain ⟨other, hother, hsource⟩ := h.sources id m (hheld id m hm)
    exact ⟨other, List.mem_append_left _ hother, hsource⟩
  answers := h.answers_append hevent

theorem Records.getOrApply (h : Records config baseline c events) (s : Scenario μ) :
    Records config baseline (c.getOrApply config s).cache (events ++
      [.answered s (c.getOrApply config s).scenario (c.getOrApply config s).calls
        (c.getOrApply config s).result]) := by
  have hanswer := answer_getOrApply config c s
  have hevent : ∀ (x after : Scenario μ) calls result,
      CacheEvent.answered s (c.getOrApply config s).scenario (c.getOrApply config s).calls
        (c.getOrApply config s).result = .answered x after calls result →
      result = (c.getOrApply config x).result := by
    intro x after calls result heq
    cases heq
    rfl
  generalize c.getOrApply config s = reply at hanswer hevent ⊢
  cases hanswer with
  | @hit id m hid hheld =>
    refine h.add rfl rfl (fun other => ?_) (fun _ _ hm => hm) (fun m' hm => ?_) hevent
    · simp only [CacheEvent.covers, CacheEvent.success?, Bool.false_eq_true, if_false]
      by_cases hother : s.id = some other
      · obtain rfl : id = other := Option.some.inj (hid.symm.trans hother)
        simp [hheld]
      · simp [hother]
    · cases hm
      exact h.held_number_lt hheld
  | failed hmiss hfails =>
    refine h.add rfl rfl (fun other => ?_) (fun _ _ hm => hm) (fun m' hm => nomatch hm) hevent
    simp [CacheEvent.covers, CacheEvent.success?]
  | @made applied hmiss happly =>
    -- the network gets the next number, so no event before has it
    have hmade : (c.keep s.id ⟨c.made, applied.network⟩).made = c.made + 1 := by
      cases s.id <;> rfl
    refine ⟨?_, fun other => ?_, fun event hmem m hm => ?_, fun other m hm => ?_,
      h.answers_append hevent⟩
    · rw [← h.base]
      cases s.id <;> rfl
    · rw [firstKept_append, ← h.kept, get?_keep]
      simp only [CacheEvent.covers, CacheEvent.success?, Bool.false_eq_true, if_false]
      by_cases hother : s.id = some other
      · rw [hother, Option.bind_some] at hmiss
        simp [hother, hmiss]
      · simp [hother]
    · rw [hmade]
      rcases List.mem_append.1 hmem with hmem | hmem
      · exact Nat.lt_succ_of_lt (h.numbered event hmem m hm)
      · rw [List.mem_singleton.1 hmem] at hm
        cases hm
        exact Nat.lt_succ_self _
    · rw [get?_keep] at hm
      split at hm
      · rename_i hother
        cases hm
        refine ⟨_, List.mem_append_right _ (List.mem_singleton.2 rfl), s, rfl, hother, ?_⟩
        rw [← direct_eq config baseline s (some c.checksum), ← h.base, happly]
        rfl
      · obtain ⟨event, hmem, hsource⟩ := h.sources other m hm
        exact ⟨event, List.mem_append_left _ hmem, hsource⟩

theorem Records.serve (h : Records config baseline c events) (request : CacheRequest μ) :
    Records config baseline (c.serve config request).1
      (events ++ [(c.serve config request).2]) := by
  cases request with
  | getOrApply s => exact h.getOrApply s
  | get id =>
    refine h.add rfl rfl (fun other => ?_) (fun _ _ hm => hm) (fun m hm => h.held_number_lt hm)
      fun _ _ _ _ hevent => nomatch hevent
    simp [ScenarioCache.serve, CacheEvent.covers, CacheEvent.success?]
  | invalidate id =>
    have hget := get?_invalidate c id
    refine h.add rfl rfl (fun other => ?_) (fun other m hm => ?_) (fun m hm => nomatch hm)
      fun _ _ _ _ hevent => nomatch hevent
    · simp [ScenarioCache.serve, CacheEvent.covers, CacheEvent.success?, hget, eq_comm]
    · simp only [ScenarioCache.serve, hget] at hm
      exact (Option.ite_none_left_eq_some.1 hm).2
  | invalidateAll =>
    refine h.add rfl rfl (fun other => ?_) (fun other m hm => ?_) (fun m hm => nomatch hm)
      fun _ _ _ _ hevent => nomatch hevent
    · simp [ScenarioCache.serve, CacheEvent.covers, invalidateAll, get?]
    · simp [ScenarioCache.serve, invalidateAll, get?] at hm

theorem records_serveAll (h : Records config baseline c events)
    (requests : List (CacheRequest μ)) :
    Records config baseline (c.serveAll config requests).1
      (events ++ (c.serveAll config requests).2) := by
  induction requests generalizing c events with
  | nil =>
    rw [serveAll, List.append_nil]
    exact h
  | cons request requests ih =>
    have hrest := ih (h.serve request)
    rw [List.append_assoc, List.singleton_append] at hrest
    exact hrest

/-! ## Transparency -/

/-- What a cache with this history promises.

* An id shows the network of the first success under it since it was last invalidated, if any.
* A network that is held is handed out as it is: nothing is called and the scenario is left alone.
* A failed application leaves the cache as it is, and one without an id what the cache holds.
* Any other network that is handed out is new: its number was never handed out before.
* As long as an id stands for one scenario, every answer is what applying the scenario to the
  baseline leads to, error or network. -/
structure Transparent (config : ApplicationConfig) (baseline : Network) (c : ScenarioCache)
    (events : List (CacheEvent μ)) : Prop where
  get : ∀ id, c.get? id = firstKept id events
  hit : ∀ (s : Scenario μ) id m, s.id = some id → c.get? id = some m →
    c.getOrApply config s = ⟨c, s, [], .ok m⟩
  failure : ∀ (s : Scenario μ) e, (c.getOrApply config s).result = .error e →
    (c.getOrApply config s).cache = c
  nameless : ∀ s : Scenario μ, s.id = none → (c.getOrApply config s).cache.entries = c.entries
  fresh : ∀ (s : Scenario μ) m, s.id.bind c.get? = none → (c.getOrApply config s).result = .ok m →
    ∀ event ∈ events, ∀ old, event.network? = some old → old.number ≠ m.number
  answers : OneScenarioPerId events → ∀ event ∈ events, ∀ (s after : Scenario μ) calls result,
    event = .answered s after calls result →
      result.map (·.network) = direct config baseline s

theorem Records.transparent (h : Records config baseline c events) :
    Transparent config baseline c events where
  get := h.kept
  hit s id m hid hheld := getOrApply_of_held hid hheld
  failure s e he := by
    have hanswer := answer_getOrApply config c s
    generalize c.getOrApply config s = reply at hanswer he ⊢
    cases hanswer with
    | hit hid hheld => rfl
    | failed hmiss hfails => rfl
    | made hmiss happly => cases he
  nameless s hid := by
    have hanswer := answer_getOrApply config c s
    generalize c.getOrApply config s = reply at hanswer ⊢
    cases hanswer with
    | hit hid hheld => rfl
    | failed hmiss hfails => rfl
    | made hmiss happly =>
      rw [hid]
      rfl
  fresh s m hmiss hm event hevent old hold := by
    have hanswer := answer_getOrApply config c s
    generalize c.getOrApply config s = reply at hanswer hm
    cases hanswer with
    | hit hid hheld =>
      rw [hid, Option.bind_some, hheld] at hmiss
      cases hmiss
    | failed _ hfails => cases hm
    | made _ happly =>
      cases hm
      exact Nat.ne_of_lt (h.numbered event hevent old hold)
  answers := h.answers

/-- A cache that was set up for a baseline is transparent after any requests. -/
theorem transparent_of_requests (config : ApplicationConfig) (baseline : Network)
    (requests : List (CacheRequest μ)) :
    Transparent config baseline ((forBaseline baseline).serveAll config requests).1
      ((forBaseline baseline).serveAll config requests).2 :=
  (records_serveAll (records_forBaseline config baseline) requests).transparent

/-- The second answer is the first network again; a failure is not kept, and after an invalidation as
well as without an id a new network is made. -/
example :
    let smooth : Scenario Scripted :=
      { id := some "smooth", modifications := [.recording "first" 1 ⟨false, true⟩ none] }
    let stuck : Scenario Scripted :=
      { id := some "stuck", modifications := [.recording "second" 1 ⟨false, true⟩ (some .apply)] }
    let served := (forBaseline (.build {} {} {})).serveAll { verifyBaseline := false }
      [.getOrApply smooth, .getOrApply smooth, .getOrApply stuck, .get "stuck",
        .invalidate "smooth", .getOrApply smooth, .getOrApply { smooth with id := none }]
    served.2.map (fun event => event.network?.map (·.number)) =
      [some 0, some 0, none, none, none, some 1, some 2] := by
  decide +kernel

end ScenarioCache

end Multimodal
