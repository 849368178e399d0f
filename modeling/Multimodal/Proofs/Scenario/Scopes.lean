import Multimodal.Proofs.Modification.Refusals
import Multimodal.Proofs.Scenario.Isolation
import Multimodal.Proofs.Scenario.Readiness

/-! # Declared scopes suffice

A scenario works on a copy that has its own layers in scope and shares the rest.  The scope is what the
modifications declare, and the rebuild goes by it; neither ever asks for a part that the copy shares.
What a scenario does not change is still the baseline's own part afterwards.

* `Scenario.not_of_sharing`: no report is about a shared part.
* `Scenario.not_rebuild`: the rebuild is never refused.
* `Scenario.shared_of_applied`: what the new network shares with its baseline.
* `Holdings.scopes_suffice`: all of this for networks that are held.
-/

namespace Multimodal

variable {n n' : Network}

/-! ## Runs on a copy -/

/-- A run makes of a network only what its holder may make of it. -/
theorem Applies.becomes {xs xs' : List Modification} (h : Applies n xs xs' n') : n.Becomes n' := by
  -- nothing is asked of the layers themselves here
  have hS : StreetLayer.Stable fun _ => True :=
    ⟨fun _ _ _ => trivial, fun _ _ _ _ _ _ => trivial, fun _ _ _ _ _ => trivial,
      fun _ _ _ _ _ _ _ => trivial⟩
  have hT : TransitLayer.Stable fun _ => True :=
    ⟨fun _ _ _ => trivial, fun _ _ _ => trivial, fun _ _ _ _ => trivial⟩
  exact (reached_applyAll hS hT (Network.Reached.start trivial trivial)
    (applyAll_of_applies h 0)).becomes

theorem Modification.not_of_sharing_apply {x x' : Modification} {f : StepFailure}
    (hx : x.change.isStreet = false) (hn : n.transit.shared = false)
    (h : x.apply n = (x', n', .error f)) : ¬f.cause.OfSharing :=
  (x.change.apply_blames hx).of_apply_error hn h

theorem Modification.not_of_sharing_resolve {x : Modification} {f : StepFailure}
    (h : (x.resolve n).2 = .error f) : ¬f.cause.OfSharing := by
  have hproblems := x.change.resolve_blames n
  have hcheck : (x.diagnostics.check (x.change.resolve n).2).2 = .error f := h
  cases hlist : (x.change.resolve n).2 with
  | nil =>
    rw [hlist] at hcheck
    cases hcheck
  | cons first rest =>
    rw [hlist] at hcheck hproblems
    cases hcheck
    exact hproblems first List.mem_cons_self

/-! ## Whole applications -/

/-- Building lists does not change who else holds the layers. -/
theorem Network.shared_withLists (n : Network) {scope : LayerScope} (h : n.Writable scope) :
    (n.withLists scope).street.shared = n.street.shared ∧
      (n.withLists scope).transit.shared = n.transit.shared := by
  unfold withLists
  constructor
  · cases hstreet : scope.street with
    | true => exact (h.street hstreet).symm
    | false => rfl
  · cases htransit : scope.transit with
    | true => exact (h.transit htransit).symm
    | false => rfl

namespace Scenario

variable {s : Scenario Modification} {config : ApplicationConfig} {baseline : Network}
  {known : Option ContentHash}

/-- The rebuild has every part that it asks for. -/
theorem not_rebuild {e : NetworkError} :
    (s.apply config baseline known).result ≠ .error (.rebuild e) := by
  intro h
  cases failsWith_of_result h with
  | refused hall hrebuild =>
    have hwritable := hall.becomes.writable
      (Network.writable_scopedCopy baseline s.canonical.scope)
    obtain ⟨summary, -, hok⟩ := Network.rebuild_apply hwritable config.policy
    rw [hok] at hrebuild
    cases hrebuild

/-- Whatever an application reports, it is not that a part is shared. -/
theorem not_of_sharing {e : ScenarioError} (h : (s.apply config baseline known).result = .error e)
    {report : Report} (hreport : report ∈ e.reports) : ¬report.failure.cause.OfSharing := by
  cases failsWith_of_result h with
  | mismatched mismatch => exact absurd hreport List.not_mem_nil
  | refused hall hrebuild => exact absurd hreport List.not_mem_nil
  | rejected hreports =>
    obtain ⟨k, x, f, -, hfails, rfl⟩ := (hreports.mem_iff report).1 hreport
    exact Modification.not_of_sharing_resolve hfails
  | @stopped before before' rest m m' n n' f hresolve hsplit hbefore hfails =>
    obtain rfl : report = _ := List.mem_singleton.1 hreport
    have hother := s.timetable_of_stopped baseline hresolve hsplit hbefore hfails
    -- what failed is of the timetable, which is therefore in scope and not shared
    have hscope := transit_in_scope hsplit hother
    have hwritable := hbefore.becomes.writable
      (Network.writable_scopedCopy baseline s.canonical.scope)
    exact Modification.not_of_sharing_apply hother (hwritable.transit hscope) hfails

/-- The new network shares the layers that are not in scope, and the linkage if the scope is empty. -/
theorem shared_of_applied {applied : Applied}
    (h : (s.apply config baseline known).result = .ok applied) :
    applied.network.street.shared = !s.scope.street ∧
      applied.network.transit.shared = !s.scope.transit ∧
        applied.network.linkage.shared = s.scope.isEmpty := by
  obtain ⟨n, hn, hnetwork, -⟩ := applied_of_result h
  rw [s.scope_canonical] at hnetwork
  have hbecomes := (revised_of_applied hn).becomes
  rw [s.scope_canonical] at hbecomes
  have hwritable := hbecomes.writable (Network.writable_scopedCopy baseline s.scope)
  obtain ⟨hstreet, htransit, -⟩ := Network.rebuilt_layers n s.scope config.policy
  obtain ⟨hstreets, htimetable⟩ := n.shared_withLists hwritable
  rw [hnetwork]
  refine ⟨?_, ?_, ?_⟩
  · rw [hstreet, hstreets, hbecomes.street.shared]
    exact baseline.shared_scopedCopy s.scope
  · rw [htransit, htimetable, hbecomes.transit.shared]
    rfl
  · rw [shared_linkage_rebuilt hwritable]
    exact hbecomes.linkage.shared

/-- The scope is empty exactly if there is nothing to apply. -/
theorem isEmpty_scope (s : Scenario Modification) :
    s.scope.isEmpty = s.modifications.isEmpty := by
  rw [s.scope_eq]
  cases s.modifications with
  | nil => rfl
  | cons x xs =>
    cases hx : x.change.isStreet <;> simp [LayerScope.isEmpty, hx]

end Scenario

/-! ## Held networks -/

/-- The layers that modifications declare are all that an application asks for.  Applied to a held
network, a scenario is never refused a part in the rebuild, and no report is about a shared part; if it
succeeds, the new network shares the streets with the one it was made from exactly if no modification is
of the streets, the timetable exactly if none is of the timetable, and the linkage exactly if there is
no modification. -/
theorem Holdings.scopes_suffice {h : Holdings} (hsound : h.Sound) {source name : String}
    {p : Places} (hne : source ≠ name) (hp : h.places? source = some p)
    (s : Scenario Modification) (config : ApplicationConfig) (known : Option ContentHash) :
    ∃ application h', h.applyScenario? source name s config known = some (application, h') ∧
      match application.result with
      | .error e => (∀ refusal, e ≠ .rebuild refusal) ∧
          ∀ report ∈ e.reports, ∀ part, report.failure.cause ≠ .refused (.partShared part)
      | .ok _ => h'.sharing? source name =
          some (s.modifications.all fun x => !x.change.isStreet,
            s.modifications.all fun x => x.change.isStreet, s.modifications.isEmpty) := by
  obtain ⟨n, hn⟩ := hsound.view? hp
  unfold applyScenario?
  rw [hn, hp]
  simp only [Option.bind_eq_bind, Option.bind_some]
  cases hresult : (s.apply config n known).result with
  | error e =>
    refine ⟨_, _, rfl, ?_⟩
    rw [hresult]
    refine ⟨fun refusal => ?_, fun report hreport part hcause => ?_⟩
    · rintro rfl
      exact Scenario.not_rebuild hresult
    · have hnot := Scenario.not_of_sharing hresult hreport
      rw [hcause] at hnot
      exact hnot trivial
  | ok applied =>
    refine ⟨_, _, rfl, ?_⟩
    obtain ⟨hstreet, htransit, hlinkage⟩ := Scenario.shared_of_applied hresult
    rw [hresult]
    show (h.adopt p name applied.network).sharing? source name = _
    rw [sharing?_adopt hsound applied.network hne hp, hstreet, htransit, hlinkage, s.isEmpty_scope,
      s.scope_eq]
    simp only [List.not_any_eq_all_not, Bool.not_not]

namespace Sample

theorem sound_hamlet : (({} : Holdings).hold "hamlet" hamlet).Sound :=
  Holdings.sound_hold Holdings.sound_empty "hamlet" hamlet

/-- The hamlet with its street closed has the same timetable as the hamlet, on the same shelf. -/
theorem closed_hamlet_shares :
    ∃ application h', (({} : Holdings).hold "hamlet" hamlet).applyScenario? "hamlet" "closed" closure
        {} none = some (application, h') ∧
      (∃ applied, application.result = .ok applied) ∧
        h'.sharing? "hamlet" "closed" = some (false, true, false) := by
  have hview : (({} : Holdings).hold "hamlet" hamlet).view? "hamlet" = some hamlet := rfl
  obtain ⟨p, hp, -⟩ := Holdings.view?_eq_some.1 hview
  have hne : "hamlet" ≠ "closed" := by decide
  obtain ⟨application, h', happly, houtcome⟩ :=
    Holdings.scopes_suffice sound_hamlet hne hp closure {} none
  obtain ⟨applied, hresult⟩ := apply_closure {}
  have hsame : application = closure.apply {} hamlet none := by
    unfold Holdings.applyScenario? at happly
    rw [hview, hp] at happly
    simp only [Option.bind_eq_bind, Option.bind_some, hresult] at happly
    cases happly
    rfl
  rw [hsame, hresult] at houtcome
  refine ⟨application, h', happly, ⟨applied, hsame ▸ hresult⟩, houtcome⟩

end Sample

end Multimodal
