import Multimodal.Proofs.Network.Isolation
import Multimodal.Sample
import Multimodal.Scenario.Held

/-! # Runs over held networks

Starting from one built network, networks are cloned, copied, changed, rebuilt, dropped and made by
scenarios, each step through one name.  Whatever the steps and their order, no step disturbs what
another name shows, and a part can be changed exactly while nobody else holds it.

* `Move`, `Move.perform`, `Holdings.run`: the steps and their runs.
* `sound_and_leaves_perform`: what one step keeps.
* `Holdings.Isolated`, `isolated_of_run`: what holds after any run.
-/

namespace Multimodal

/-! ## Steps and runs -/

/-- One step through one held network.  `clone`, `copy` and `applyScenario` read the network of their
first name and write the one of their second. -/
inductive Move
  | clone (source name : String)
  | copy (source name : String) (scope : LayerScope)
  | drop (name : String)
  | editStreet (name : String) (edit : Edit StreetLayer Unit)
  | editTransit (name : String) (edit : Edit TransitLayer Unit)
  | linkStops (name : String) (selection : StopSelection)
  | findTransfers (name : String) (dirty : List StopIndex)
  | findAllTransfers (name : String)
  | buildEdgeLists (name : String)
  | buildMembership (name : String)
  | rebuild (name : String) (scope : LayerScope) (policy : RebuildPolicy)
  | applyScenario (source name : String) (scenario : Scenario Modification)
      (config : ApplicationConfig) (known : Option ContentHash)

namespace Move

/-- The name whose network the step makes, changes or drops. -/
def name : Move → String
  | clone _ name | copy _ name _ | drop name | editStreet name _ | editTransit name _
  | linkStops name _ | findTransfers name _ | findAllTransfers name | buildEdgeLists name
  | buildMembership name | rebuild name _ _ | applyScenario _ name _ _ _ => name

/-- The name whose network the step acts through. -/
def through : Move → String
  | clone source _ | copy source _ _ | applyScenario source _ _ _ _ => source
  | drop name | editStreet name _ | editTransit name _ | linkStops name _ | findTransfers name _
  | findAllTransfers name | buildEdgeLists name | buildMembership name | rebuild name _ _ => name

/-- The holdings after the step, whether what it asks for is granted or refused; a step through a
name that is not held is none. -/
def perform (h : Holdings) : Move → Option Holdings
  | clone source name => h.clone? source name
  | copy source name scope => h.copy? source name scope
  | drop name => some (h.drop name)
  | editStreet name edit => (h.act? name (Network.editStreet edit)).map (·.2)
  | editTransit name edit => (h.act? name (Network.editTransit edit)).map (·.2)
  | linkStops name selection => (h.act? name (Network.linkStops selection)).map (·.2)
  | findTransfers name dirty => (h.act? name (Network.findTransfers dirty)).map (·.2)
  | findAllTransfers name => (h.act? name Network.findAllTransfers).map (·.2)
  | buildEdgeLists name => (h.act? name Network.buildEdgeLists).map (·.2)
  | buildMembership name => (h.act? name Network.buildMembership).map (·.2)
  | rebuild name scope policy => (h.act? name (Network.rebuild scope policy)).map (·.2)
  | applyScenario source name scenario config known =>
    (h.applyScenario? source name scenario config known).map (·.2)

end Move

/-- The holdings after some steps, each of them through a name that is held. -/
def Holdings.run (h : Holdings) : List Move → Option Holdings
  | [] => some h
  | move :: moves => (move.perform h).bind fun h => h.run moves

namespace Holdings

/-! ## One step -/

theorem sound_and_leaves_applyScenario {h h' : Holdings} (hsound : h.Sound)
    {source name : String} {scenario : Scenario Modification} {config : ApplicationConfig}
    {known : Option ContentHash} {application : Application Modification}
    (happly : h.applyScenario? source name scenario config known = some (application, h')) :
    h'.Sound ∧ ∀ other, other ≠ name → h.Leaves h' other := by
  unfold applyScenario? at happly
  obtain ⟨n, hn, happly⟩ := Option.bind_eq_some_iff.1 happly
  cases hresult : (scenario.apply config n known).result with
  | error e =>
    simp only [hresult] at happly
    cases happly
    exact ⟨hsound, fun other _ n hn => ⟨n, hn, ⟨rfl, rfl, rfl, rfl⟩⟩⟩
  | ok applied =>
    simp only [hresult] at happly
    obtain ⟨p, hp, happly⟩ := Option.bind_eq_some_iff.1 happly
    cases happly
    exact ⟨sound_adopt hsound name (hsound.onShelves source p hp) applied.network,
      fun other hne => leaves_adopt hsound hne⟩

/-- A step keeps the holdings sound and leaves alone what every other name shows. -/
theorem sound_and_leaves_perform {h h' : Holdings} (hsound : h.Sound) {move : Move}
    (hmove : move.perform h = some h') :
    h'.Sound ∧ ∀ other, other ≠ move.name → h.Leaves h' other := by
  have hact : ∀ {α : Type} {name : String} {f : Edit Network α},
      (∀ n : Network, Keeps n.Becomes f) → (h.act? name f).map (·.2) = some h' →
        h'.Sound ∧ ∀ other, other ≠ name → h.Leaves h' other := by
    intro α name f hf hsome
    obtain ⟨⟨answer, h''⟩, hact, rfl⟩ := Option.map_eq_some_iff.1 hsome
    exact sound_and_leaves_act hsound hf hact
  cases move with
  | clone source name =>
    obtain ⟨p, hp, rfl⟩ := Option.map_eq_some_iff.1 hmove
    exact ⟨sound_assign hsound name (hsound.onShelves source p hp), fun _ => leaves_assign⟩
  | copy source name scope =>
    obtain ⟨p, hp, hmove⟩ := Option.bind_eq_some_iff.1 hmove
    obtain ⟨n, -, hmove⟩ := Option.bind_eq_some_iff.1 hmove
    cases hmove
    exact ⟨sound_adopt hsound name (hsound.onShelves source p hp) _,
      fun other hne => leaves_adopt hsound hne⟩
  | drop name =>
    cases hmove
    exact ⟨sound_drop hsound name, fun _ => leaves_drop⟩
  | editStreet name edit => exact hact (fun _ => Network.Becomes.editStreet edit) hmove
  | editTransit name edit => exact hact (fun _ => Network.Becomes.editTransit edit) hmove
  | linkStops name selection => exact hact (fun _ => Network.Becomes.linkStops selection) hmove
  | findTransfers name dirty => exact hact (fun _ => Network.Becomes.findTransfers dirty) hmove
  | findAllTransfers name => exact hact (fun _ => Network.Becomes.findAllTransfers) hmove
  | buildEdgeLists name => exact hact (fun _ => Network.Becomes.buildEdgeLists) hmove
  | buildMembership name => exact hact (fun _ => Network.Becomes.buildMembership) hmove
  | rebuild name scope policy =>
    exact hact (fun _ => Network.Becomes.rebuild scope policy) hmove
  | applyScenario source name scenario config known =>
    obtain ⟨⟨application, h''⟩, happly, rfl⟩ := Option.map_eq_some_iff.1 hmove
    exact sound_and_leaves_applyScenario hsound happly

theorem exists_perform {h : Holdings} (hsound : h.Sound) (move : Move) {p : Places}
    (hp : h.places? move.through = some p) : ∃ h', move.perform h = some h' := by
  obtain ⟨n, hn⟩ := hsound.view? hp
  have hact : ∀ {α : Type} (f : Edit Network α),
      ∃ h', (h.act? move.through f).map (·.2) = some h' := by
    intro α f
    rw [act?_of_view? hn]
    cases f n with
    | ok a m => exact ⟨_, rfl⟩
    | error e m => exact ⟨_, rfl⟩
  cases move with
  | clone source name => exact ⟨_, Option.map_eq_some_iff.2 ⟨p, hp, rfl⟩⟩
  | copy source name scope => exact ⟨_, copy?_of_view? hp hn name scope⟩
  | drop name => exact ⟨_, rfl⟩
  | editStreet name edit => exact hact _
  | editTransit name edit => exact hact _
  | linkStops name selection => exact hact _
  | findTransfers name dirty => exact hact _
  | findAllTransfers name => exact hact _
  | buildEdgeLists name => exact hact _
  | buildMembership name => exact hact _
  | rebuild name scope policy => exact hact _
  | applyScenario source name scenario config known =>
    have hp' : h.places? source = some p := hp
    have hn' : h.view? source = some n := hn
    show ∃ h', (h.applyScenario? source name scenario config known).map (·.2) = some h'
    unfold applyScenario?
    rw [hn', hp']
    simp only [Option.bind_eq_bind, Option.bind_some]
    cases (scenario.apply config n known).result with
    | error e => exact ⟨_, rfl⟩
    | ok applied => exact ⟨_, rfl⟩

/-! ## Whole runs -/

theorem sound_empty : ({} : Holdings).Sound where
  listed e he := by cases he
  onShelves name p hp := by cases hp

theorem sound_run {h h' : Holdings} (hsound : h.Sound) {moves : List Move}
    (hrun : h.run moves = some h') : h'.Sound := by
  induction moves generalizing h with
  | nil =>
    cases hrun
    exact hsound
  | cons move moves ih =>
    obtain ⟨h'', hmove, hrun⟩ := Option.bind_eq_some_iff.1 hrun
    exact ih (sound_and_leaves_perform hsound hmove).1 hrun

/-- What holdings promise those who hold networks: a name that is held shows a network, and every step
through it is carried out; no step changes the layers, the linkage or the checksum that other names
show; a scoped copy shares what is not in its scope, and the linkage if that is empty; a request for a
part is refused exactly when another name shares the part, and so is every change of it then. -/
structure Isolated (h : Holdings) : Prop where
  shows : ∀ name p, h.places? name = some p → ∃ n, h.view? name = some n
  performs : ∀ (move : Move) p, h.places? move.through = some p → ∃ h', move.perform h = some h'
  leaves : ∀ (move : Move) (h' : Holdings), move.perform h = some h' →
    ∀ other, other ≠ move.name → ∀ n, h.view? other = some n →
      ∃ m, h'.view? other = some m ∧ n.SameContent m ∧ n.checksum = m.checksum
  copies : ∀ (source name : String) (scope : LayerScope) (p : Places), source ≠ name →
    h.places? source = some p →
      ∃ h', h.copy? source name scope = some h' ∧
        h'.sharing? source name = some (!scope.street, !scope.transit, scope.isEmpty)
  requests : ∀ (name : String) (p : Places) (part : NetworkPart), h.places? name = some p →
    ((∃ other, other ≠ name ∧ h.Shares part name other) →
        (h.act? name (Network.request part)).map (·.1) = some (.error (.partShared part))) ∧
      ((¬∃ other, other ≠ name ∧ h.Shares part name other) →
        (h.act? name (Network.request part)).map (·.1) = some (.ok ()))
  refusals : ∀ (name : String) (p : Places) (part : NetworkPart), h.places? name = some p →
    (∃ other, other ≠ name ∧ h.Shares part name other) →
      ∀ {α : Type} (edit : Edit Network α), Network.Edits part edit →
        (h.act? name edit).map (·.1) = some (.error (.partShared part))

theorem Sound.isolated {h : Holdings} (hsound : h.Sound) : h.Isolated where
  shows _ _ hp := hsound.view? hp
  performs move _ hp := exists_perform hsound move hp
  leaves move h' hmove other hne n hn := by
    obtain ⟨m, hm, hsame⟩ := (sound_and_leaves_perform hsound hmove).2 other hne n hn
    exact ⟨m, hm, hsame, hsame.checksum⟩
  copies _ _ scope _ hne hp := sharing?_copy hsound scope hne hp
  requests name p part hp := by
    obtain ⟨n, hn⟩ := hsound.view? hp
    exact answer_request hsound hn part
  refusals name p part hp hshares _ edit hedit := by
    obtain ⟨n, hn⟩ := hsound.view? hp
    exact answer_edits hsound hn hedit hshares

/-- After any steps from one built network the held networks are isolated from each other. -/
theorem isolated_of_run (street : StreetLayer) (transit : TransitLayer) (params : LinkageParams)
    (first : String) (moves : List Move) {h : Holdings}
    (hrun : (({} : Holdings).hold first (.build street transit params)).run moves = some h) :
    h.Isolated :=
  (sound_run (sound_hold sound_empty first _) hrun).isolated

/-- The town is copied for a change of its streets; the copy is changed and the town dropped. -/
theorem isolated_town_run :
    ∃ h, (({} : Holdings).hold "town" Sample.town).run
        [.copy "town" "wider" ⟨true, false⟩, .clone "town" "twin",
          .editStreet "wider" (StreetLayer.removeEdge 0), .buildEdgeLists "wider",
          .editTransit "twin" (pure ()), .drop "town"] = some h ∧ h.Isolated := by
  have hsome : ((({} : Holdings).hold "town" Sample.town).run
      [.copy "town" "wider" ⟨true, false⟩, .clone "town" "twin",
        .editStreet "wider" (StreetLayer.removeEdge 0), .buildEdgeLists "wider",
        .editTransit "twin" (pure ()), .drop "town"]).isSome = true := by decide +kernel
  obtain ⟨h, hrun⟩ := Option.isSome_iff_exists.1 hsome
  exact ⟨h, hrun, isolated_of_run (Sample.grid 5) Sample.twoLines {} "town" _ hrun⟩

end Holdings

end Multimodal
