import Mathlib
import Multimodal.Scenario.Application

/-! # The course of an application

An application whose feeds match runs in two phases.  Every modification is resolved once, in the order
of application, whatever becomes of the others; only if all of them resolve are they applied, in the
same order and up to the first that fails.  Nothing is assumed of the modifications.

* `StablySorted`: the order of application.
* `ReportsOn`: the reports of the first phase; `Applies`: an undisturbed run of the second.
* `Course`: the three courses that an application can take.
* `Scenario.apply_follows_course`: every application takes one of them, or none if the feeds differ.
-/

namespace Multimodal

section Phases

variable {μ : Type} [Modifies μ]

/-! ## The order of application -/

/-- The same modifications by ascending sort order, those of one sort order in the order they had. -/
structure StablySorted (ms sorted : List μ) : Prop where
  perm : sorted.Perm ms
  ascending : sorted.Pairwise fun a b => Modifies.sortOrder a ≤ Modifies.sortOrder b
  stable : ∀ k : Int,
    sorted.filter (fun m => Modifies.sortOrder m = k) = ms.filter fun m => Modifies.sortOrder m = k

theorem inOrder_trans (a b c : μ) (hab : inOrder a b = true) (hbc : inOrder b c = true) :
    inOrder a c = true := by
  simp only [inOrder, decide_eq_true_eq] at *
  omega

theorem inOrder_total (a b : μ) : (inOrder a b || inOrder b a) = true := by
  simp only [inOrder, Bool.or_eq_true, decide_eq_true_eq]
  omega

theorem stablySorted_canonicalize (ms : List μ) : StablySorted ms (canonicalize ms) where
  perm := List.mergeSort_perm ms inOrder
  ascending := by
    have h := List.pairwise_mergeSort inOrder_trans inOrder_total ms
    exact h.imp fun hab => by simpa [inOrder] using hab
  stable k := by
    have hsame : (ms.filter fun m => Modifies.sortOrder m = k).Pairwise
        fun a b => inOrder a b = true := by
      refine List.pairwise_of_forall_mem_list fun a ha b hb => ?_
      simp only [List.mem_filter, decide_eq_true_eq] at ha hb
      simp [inOrder, ha.2, hb.2]
    -- modifications of one sort order are sorted already, so sorting keeps them as a sublist
    have hsub := (List.sublist_mergeSort inOrder_trans inOrder_total hsame
      List.filter_sublist).filter fun m => Modifies.sortOrder m = k
    simp only [List.filter_filter, Bool.and_self] at hsub
    have hlength := ((List.mergeSort_perm ms inOrder).filter
      fun m => Modifies.sortOrder m = k).length_eq
    exact (hsub.eq_of_length hlength.symm).symm

/-- Sorting does not change the scope. -/
theorem Scenario.scope_canonical (s : Scenario μ) : s.canonical.scope = s.scope := by
  have hperm : s.canonical.modifications.Perm s.modifications :=
    (stablySorted_canonicalize s.modifications).perm
  unfold scope
  rw [hperm.any_eq, hperm.any_eq]

/-! ## Resolving -/

/-- Some calls of one phase, the positions in a row. -/
def callsFrom (phase : Phase) (first count : Nat) : List Call :=
  (List.range' first count).map (Call.mk phase)

theorem callsFrom_succ (phase : Phase) (first count : Nat) :
    callsFrom phase first (count + 1) = ⟨phase, first⟩ :: callsFrom phase (first + 1) count := by
  simp [callsFrom, List.range'_succ]

/-- A modification as resolving it against a network leaves it. -/
def resolvedBy (n : Network) (m : μ) : μ := (Modifies.resolve m n).1

/-- The reports on exactly those modifications that fail to resolve, by ascending position, the first
modification having number `i`. -/
structure ReportsOn (n : Network) (i : Nat) (ms : List μ) (reports : List Report) : Prop where
  ascending : reports.Pairwise fun a b => a.position < b.position
  mem_iff : ∀ r, r ∈ reports ↔ ∃ k m f, ms[k]? = some m ∧ (Modifies.resolve m n).2 = .error f ∧
    r = .capture (i + k) (resolvedBy n m) f

theorem ReportsOn.le_position {n : Network} {i : Nat} {ms : List μ} {reports : List Report}
    (h : ReportsOn n i ms reports) {r : Report} (hr : r ∈ reports) : i ≤ r.position := by
  obtain ⟨k, m, f, -, -, rfl⟩ := (h.mem_iff r).1 hr
  exact Nat.le_add_right i k

theorem resolveAll_fst (n : Network) (i : Nat) (ms : List μ) :
    (resolveAll n i ms).1 = ⟨ms.map (resolvedBy n), callsFrom .resolve i ms.length⟩ := by
  induction ms generalizing i with
  | nil => rfl
  | cons m ms ih =>
    have hrest := ih (i + 1)
    rw [resolveAll]
    rcases hm : Modifies.resolve m n with ⟨m', _ | _⟩ <;>
      simp only [hrest, Round.after, List.map_cons, List.length_cons, callsFrom_succ, resolvedBy, hm]

theorem reportsOn_resolveAll (n : Network) (i : Nat) (ms : List μ) :
    ReportsOn n i ms (resolveAll n i ms).2 := by
  induction ms generalizing i with
  | nil => exact ⟨List.Pairwise.nil, fun r => by simp [resolveAll]⟩
  | cons m ms ih =>
    have hrest := ih (i + 1)
    have hshift : ∀ k, i + 1 + k = i + (k + 1) := fun k => by omega
    rcases hm : Modifies.resolve m n with ⟨m', f | ⟨⟩⟩
    · have hreports : (resolveAll n i (m :: ms)).2 =
          .capture i m' f :: (resolveAll n (i + 1) ms).2 := by simp [resolveAll, hm]
      rw [hreports]
      refine ⟨List.pairwise_cons.2 ⟨fun r hr => ?_, hrest.ascending⟩, fun r => ?_⟩
      · have hle := hrest.le_position hr
        exact hle
      · rw [List.mem_cons, hrest.mem_iff]
        constructor
        · rintro (rfl | ⟨k, x, g, hx, hg, rfl⟩)
          · exact ⟨0, m, f, rfl, by rw [hm], by simp [resolvedBy, hm]⟩
          · exact ⟨k + 1, x, g, hx, hg, by rw [hshift]⟩
        · rintro ⟨_ | k, x, g, hx, hg, rfl⟩
          · obtain rfl : m = x := Option.some.inj hx
            rw [hm] at hg
            cases hg
            exact .inl (by simp [resolvedBy, hm])
          · exact .inr ⟨k, x, g, hx, hg, by rw [hshift]⟩
    · have hreports : (resolveAll n i (m :: ms)).2 = (resolveAll n (i + 1) ms).2 := by
        simp [resolveAll, hm]
      rw [hreports]
      refine ⟨hrest.ascending, fun r => ?_⟩
      rw [hrest.mem_iff]
      constructor
      · rintro ⟨k, x, g, hx, hg, rfl⟩
        exact ⟨k + 1, x, g, hx, hg, by rw [hshift]⟩
      · rintro ⟨_ | k, x, g, hx, hg, rfl⟩
        · obtain rfl : m = x := Option.some.inj hx
          rw [hm] at hg
          cases hg
        · exact ⟨k, x, g, hx, hg, by rw [hshift]⟩

/-- Without a report every modification resolved. -/
theorem ReportsOn.resolves {n : Network} {i : Nat} {ms : List μ} (h : ReportsOn n i ms []) {m : μ}
    (hm : m ∈ ms) : (Modifies.resolve m n).2 = .ok () := by
  obtain ⟨k, hk⟩ := List.getElem?_of_mem hm
  cases hresult : (Modifies.resolve m n).2 with
  | ok u => rfl
  | error f => exact absurd ((h.mem_iff _).2 ⟨k, m, f, hk, hresult, rfl⟩) List.not_mem_nil

/-! ## Applying -/

/-- Applying the modifications one after the other, each to what the one before it left, succeeds with
all of them: it leaves the second list of modifications and leads from one network to the other. -/
inductive Applies : Network → List μ → List μ → Network → Prop
  | nil (n : Network) : Applies n [] [] n
  | cons {n n' n'' : Network} {m m' : μ} {ms ms' : List μ}
      (hfirst : Modifies.apply m n = (m', n', .ok ())) (hrest : Applies n' ms ms' n'') :
      Applies n (m :: ms) (m' :: ms') n''

/-- Applying modifications goes through, or it stops at the first that fails. -/
theorem applyAll_cases (n : Network) (i : Nat) (ms : List μ) :
    (∃ ms' n', Applies n ms ms' n' ∧
      applyAll n i ms = (⟨ms', callsFrom .apply i ms.length⟩, .ok n')) ∨
    ∃ before before' m m' rest n' n'' f, ms = before ++ m :: rest ∧ Applies n before before' n' ∧
      Modifies.apply m n' = (m', n'', .error f) ∧
      applyAll n i ms = (⟨before' ++ m' :: rest, callsFrom .apply i (before.length + 1)⟩,
        .error (.capture (i + before.length) m' f)) := by
  induction ms generalizing n i with
  | nil => exact .inl ⟨[], n, .nil n, rfl⟩
  | cons m ms ih =>
    rcases hm : Modifies.apply m n with ⟨m', n₁, f | ⟨⟩⟩
    · refine .inr ⟨[], [], m, m', ms, n, n₁, f, rfl, .nil n, hm, ?_⟩
      simp [applyAll, hm, callsFrom]
    · rcases ih n₁ (i + 1) with ⟨ms', n', hall, happly⟩ |
        ⟨before, before', x, x', rest, n', n'', f, rfl, hbefore, hfails, happly⟩
      · refine .inl ⟨m' :: ms', n', .cons hm hall, ?_⟩
        simp [applyAll, hm, happly, Round.after, callsFrom_succ]
      · refine .inr ⟨m :: before, m' :: before', x, x', rest, n', n'', f, rfl, .cons hm hbefore,
          hfails, ?_⟩
        have hposition : i + 1 + before.length = i + (before.length + 1) := by omega
        simp [applyAll, hm, happly, Round.after, callsFrom_succ, hposition]

/-! ## Whole applications -/

/-- A network with the content of another one: it differs at most in what it notes as touched and in
what it shares. -/
structure Network.CopyOf (copy n : Network) : Prop where
  street : copy.street.content.forgetChanges = n.street.content.forgetChanges
  transit : copy.transit.content = n.transit.content
  linkage : copy.linkage.content = n.linkage.content
  params : copy.params = n.params
  checksum : copy.checksum = n.checksum

theorem Network.copyOf_scopedCopy (n : Network) (scope : LayerScope) :
    (n.scopedCopy scope).CopyOf n := by
  obtain ⟨street, transit⟩ := scope
  cases street <;> exact ⟨rfl, rfl, rfl, rfl, rfl⟩

/-- The courses of an application that resolves the modifications `ms` against the network `copy`.
Each says which calls were made, what they left of the modifications, and what came of it. -/
inductive Course (s : Scenario μ) (finish : Network → Except ScenarioError Applied) (copy : Network)
    (ms : List μ) : Application μ → Prop
  /-- Some modifications fail to resolve: all are resolved and none is applied. -/
  | rejected (reports : List Report) (hreports : ReportsOn copy 0 ms reports)
      (hsome : reports ≠ []) :
      Course s finish copy ms ⟨{ s with modifications := ms.map (resolvedBy copy) },
        callsFrom .resolve 0 ms.length, .error (.invalid reports)⟩
  /-- All resolve and one fails to apply: those before it are applied and those after it are not. -/
  | stopped {before before' rest : List μ} {m m' : μ} {n n' : Network} {f : StepFailure}
      (hresolve : ∀ m ∈ ms, (Modifies.resolve m copy).2 = .ok ())
      (hsplit : ms.map (resolvedBy copy) = before ++ m :: rest)
      (hbefore : Applies copy before before' n) (hfails : Modifies.apply m n = (m', n', .error f)) :
      Course s finish copy ms ⟨{ s with modifications := before' ++ m' :: rest },
        callsFrom .resolve 0 ms.length ++ callsFrom .apply 0 (before.length + 1),
        .error (.applicationFailed (.capture before.length m' f))⟩
  /-- All resolve and all are applied, and the network that they lead to is finished. -/
  | completed {ms' : List μ} {n : Network}
      (hresolve : ∀ m ∈ ms, (Modifies.resolve m copy).2 = .ok ())
      (hall : Applies copy (ms.map (resolvedBy copy)) ms' n) :
      Course s finish copy ms ⟨{ s with modifications := ms' },
        callsFrom .resolve 0 ms.length ++ callsFrom .apply 0 ms.length, finish n⟩

/-- What follows when every modification is applied: the rebuild and the check of the baseline. -/
def Scenario.finish (s : Scenario μ) (config : ApplicationConfig) (baseline : Network)
    (known : Option ContentHash) (feeds : FeedCheck) (n : Network) :
    Except ScenarioError Applied :=
  match Network.rebuild s.scope config.policy n with
  | .error e _ => .error (.rebuild e)
  | .ok rebuild network =>
    .ok { network, feeds, rebuild, baseline := checkBaseline config known baseline }

theorem Scenario.course_canonical (s : Scenario μ) (config : ApplicationConfig)
    (baseline : Network) (known : Option ContentHash) {feeds : FeedCheck}
    (hfeeds : verifyFeeds s.feeds baseline.transit.content.feeds = .ok feeds) :
    Course s (s.canonical.finish config baseline known feeds)
      (baseline.scopedCopy s.canonical.scope) (canonicalize s.modifications)
      (s.apply config baseline known) := by
  have hround := resolveAll_fst (baseline.scopedCopy s.canonical.scope) 0 s.canonical.modifications
  have hreports :=
    reportsOn_resolveAll (baseline.scopedCopy s.canonical.scope) 0 s.canonical.modifications
  unfold apply
  rw [hfeeds]
  unfold applyInOrder
  rcases hresolved : resolveAll (baseline.scopedCopy s.canonical.scope) 0
    s.canonical.modifications with ⟨round, _ | ⟨report, reports⟩⟩
  · rw [hresolved] at hround hreports
    obtain rfl : round = _ := hround
    simp only [hresolved]
    have hresolves : ∀ m ∈ canonicalize s.modifications,
        (Modifies.resolve m (baseline.scopedCopy s.canonical.scope)).2 = .ok () :=
      fun m hm => hreports.resolves hm
    rcases applyAll_cases (baseline.scopedCopy s.canonical.scope) 0
      (s.canonical.modifications.map (resolvedBy (baseline.scopedCopy s.canonical.scope))) with
      ⟨ms', n, hall, happly⟩ |
        ⟨before, before', m, m', rest, n, n', f, hsplit, hbefore, hfails, happly⟩
    · rw [happly, List.length_map]
      have hcourse : Course s (s.canonical.finish config baseline known feeds) _ _ _ :=
        .completed hresolves hall
      cases hrebuild : Network.rebuild s.canonical.scope config.policy n with
      | error e network =>
        have hfinish : s.canonical.finish config baseline known feeds n = .error (.rebuild e) := by
          simp only [finish, hrebuild]
        rw [hfinish] at hcourse
        simp only [hrebuild]
        exact hcourse
      | ok summary network =>
        have hfinish : s.canonical.finish config baseline known feeds n =
            .ok ⟨network, feeds, summary, checkBaseline config known baseline⟩ := by
          simp only [finish, hrebuild]
        rw [hfinish] at hcourse
        simp only [hrebuild]
        exact hcourse
    · rw [happly, Nat.zero_add]
      exact .stopped hresolves hsplit hbefore hfails
  · rw [hresolved] at hround hreports
    obtain rfl : round = _ := hround
    simp only [hresolved]
    exact .rejected (report :: reports) hreports (List.cons_ne_nil report reports)

/-- If the feeds differ, no modification is called and the scenario stays as it was written.
Otherwise the application takes one of the three courses, with the modifications in stable order and
against a copy of the baseline. -/
theorem Scenario.apply_follows_course (s : Scenario μ) (config : ApplicationConfig)
    (baseline : Network) (known : Option ContentHash) :
    match verifyFeeds s.feeds baseline.transit.content.feeds with
    | .error mismatch => s.apply config baseline known = ⟨s, [], .error (.integrity mismatch)⟩
    | .ok feeds =>
      ∃ copy ms, copy.CopyOf baseline ∧ StablySorted s.modifications ms ∧
        Course s (s.canonical.finish config baseline known feeds) copy ms
          (s.apply config baseline known) := by
  cases hfeeds : verifyFeeds s.feeds baseline.transit.content.feeds with
  | error mismatch =>
    unfold apply
    rw [hfeeds]
  | ok feeds =>
    exact ⟨baseline.scopedCopy s.canonical.scope, canonicalize s.modifications,
      Network.copyOf_scopedCopy baseline s.canonical.scope,
      stablySorted_canonicalize s.modifications, s.course_canonical config baseline known hfeeds⟩

end Phases

end Multimodal
