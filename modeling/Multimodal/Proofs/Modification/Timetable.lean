import Multimodal.Proofs.Modification.Revision
import Multimodal.Proofs.Network.Reach
import Multimodal.Proofs.Transit.WellFormed
import Multimodal.Sample

/-! # Modifications keep the timetable well formed

Every modification of the timetable leaves a well-formed timetable, also when it fails half way, and
reads no time and no position that is not there.

* `Remark.Unreadable`, `Step.Orderly`: a step that does not fail over unreadable times.
* `orderly_removeTrips`, `orderly_removeStops`, `orderly_revisePatterns`, `orderly_addTrips`: the
  modifications.
* `Pattern.Readable`: what modifications read of the trips of a pattern is there.
* `TransitLayer.Safe`, `TransitLayer.wellFormed_empty_and_safe`: all operations on a well-formed
  timetable.
* `TransitLayer.wellFormed_of_built`: timetables made by operations in any order.
-/

namespace Multimodal

/-- The remark that the times of a trip cannot be read. -/
def Remark.Unreadable : Remark → Prop
  | .refused e => e.Unreadable
  | _ => False

namespace Step

open TransitLayer

variable {α : Type}

/-- The step keeps timetables well formed, and if it fails, then not because the times of a trip
cannot be read. -/
def Orderly (step : Step TransitLayer α) : Prop :=
  Ensures (fun w => w.target.WellFormed) step (fun _ w => w.target.WellFormed)
    fun f w => ¬f.cause.Unreadable ∧ w.target.WellFormed

/-- What an operation guarantees of a timetable, a step that makes it guarantees too. -/
theorem ensures_edit {P : TransitLayer → Prop} {e : Edit TransitLayer α}
    {Q : α → TransitLayer → Prop}
    (h : Ensures P e Q fun e t => ¬e.Unreadable ∧ t.WellFormed) :
    Ensures (fun w => P w.target) (edit e) (fun a w => Q a w.target)
      fun f w => ¬f.cause.Unreadable ∧ w.target.WellFormed :=
  Ensures.edit (F := fun f (t : TransitLayer) => ¬f.cause.Unreadable ∧ t.WellFormed) h
    fun _ _ ht => ht

theorem ensures_fail {P : TransitLayer → Prop} {r : Remark} {Q : α → Worksite TransitLayer → Prop}
    (hr : ¬r.Unreadable) (hP : ∀ t, P t → t.WellFormed) :
    Ensures (fun w => P w.target) (fail r) Q
      fun f w => ¬f.cause.Unreadable ∧ w.target.WellFormed :=
  Ensures.fail (F := fun f (t : TransitLayer) => ¬f.cause.Unreadable ∧ t.WellFormed)
    fun t ht => ⟨hr, hP t ht⟩

/-! ## Revising patterns -/

theorem revise_yields {f : List StopIndex → Trip → Except NetworkError Trip} (hf : Revises f)
    {p : Pattern} (hp : ∀ trip ∈ p.trips, trip.validate p.stops.length = .ok ()) :
    Yields (p.revise f) (fun q => ∀ t : TransitLayer, p.Accepted t → q.Accepted t)
      fun e => ¬e.Unreadable := by
  refine Yields.bind (Yields.mapM fun trip htrip => hf p.stops trip (hp trip htrip))
    fun trips htrips => ?_
  exact fun t ht => { ht with trips := htrips }

theorem orderly_revisePattern {f : List StopIndex → Trip → Except NetworkError Trip}
    (hf : Revises f) (i : PatternIndex) : Orderly (revisePattern f i) := by
  refine Ensures.bind (ensures_edit (openPattern_accepted i)) fun p => ?_
  intro w hw
  have hrevise := revise_yields hf hw.2.trips
  cases hq : p.revise f with
  | error e =>
    rw [hq] at hrevise
    exact ⟨hrevise, hw.1⟩
  | ok q =>
    rw [hq] at hrevise
    exact hw.1.replacePattern i (hrevise w.target hw.2)

theorem orderly_revisePatterns {f : List StopIndex → Trip → Except NetworkError Trip}
    (hf : Revises f) (routes : List RouteIndex) : Orderly (revisePatterns routes f) :=
  Ensures.bind (R := fun _ w => w.target.WellFormed) (Ensures.target fun _ hw => hw)
    fun _ => Ensures.forM fun i _ => orderly_revisePattern hf i

/-! ## The modifications -/

theorem orderly_removeTrips (m : RemoveTrips) : Orderly m.apply := by
  intro w hw
  rw [removeTrips_apply]
  refine hw.withPatterns (fun p hp => ?_) w.target.membership true
  obtain ⟨q, hq, rfl⟩ := List.mem_map.1 (List.mem_filter.1 hp).1
  exact { hw.patterns q hq with
    trips := fun trip htrip => (hw.patterns q hq).trips trip (List.mem_filter.1 htrip).1 }

theorem accepted_of_skipped {m : RemoveStops} {p : Pattern} {t : TransitLayer} (h : p.Accepted t)
    {trips : List Trip}
    (htrips : ∀ trip ∈ trips, trip.validate (m.keptPositions p).length = .ok ()) :
    Pattern.Accepted { p with stops := p.stops.filter (· ∉ m.foundStops), trips } t where
  route := h.route
  stops := fun s hs => h.stops s (List.mem_filter.1 hs).1
  trips := fun trip htrip => m.length_keptPositions p ▸ htrips trip htrip

/-- The trips of an accepted pattern that keeps enough stops can all do without the others. -/
theorem skipTrips_eq_ok {m : RemoveStops} {p : Pattern}
    (hp : ∀ trip ∈ p.trips, trip.validate p.stops.length = .ok ())
    (hfew : ¬(m.keptPositions p).length < 2) :
    ∃ trips, p.trips.mapM (Trip.skip (m.keptPositions p)) = .ok trips ∧
      ∀ trip ∈ trips, trip.validate (m.keptPositions p).length = .ok () := by
  have hkeep : m.keptPositions p ≠ [] := fun h => hfew (by rw [h]; decide)
  obtain ⟨hascending, hbounds⟩ := m.keptPositions_ascending p
  have hskipped : Yields (p.trips.mapM (Trip.skip (m.keptPositions p)))
      (fun trips => ∀ trip ∈ trips, trip.validate (m.keptPositions p).length = .ok ())
      fun _ => False := by
    refine Yields.mapM fun trip htrip => ?_
    obtain ⟨t', hskip, hvalid⟩ := Trip.skip_eq_ok (hp trip htrip) hascending hbounds hkeep
    rw [hskip]
    exact hvalid
  cases hx : p.trips.mapM (Trip.skip (m.keptPositions p)) with
  | ok trips =>
    rw [hx] at hskipped
    exact ⟨trips, rfl, hskipped⟩
  | error e =>
    rw [hx] at hskipped
    exact hskipped.elim

theorem ensures_rewritePattern {m : RemoveStops} (i : PatternIndex) {p : Pattern}
    (hfew : ¬(m.keptPositions p).length < 2) :
    Ensures (fun w => w.target.WellFormed ∧ p.Accepted w.target) (rewritePattern m i p)
      (fun _ w => w.target.WellFormed)
      fun f w => ¬f.cause.Unreadable ∧ w.target.WellFormed := by
  intro w hw
  obtain ⟨trips, hskipped, htrips⟩ := skipTrips_eq_ok hw.2.trips hfew
  rw [rewritePattern_apply hskipped]
  exact hw.1.replacePattern i (accepted_of_skipped hw.2 htrips)

theorem orderly_applyToPattern (m : RemoveStops) (i : PatternIndex) :
    Orderly (m.applyToPattern i) := by
  refine Ensures.bind (ensures_edit (openPattern_accepted i)) fun p => ?_
  by_cases hskip : (!m.concerns p.route || (m.keptPositions p).length = p.stops.length) = true
  · simp only [if_pos hskip]
    exact Ensures.pure fun _ hw => hw.1
  · simp only [if_neg hskip]
    by_cases hfew : (m.keptPositions p).length < 2
    · simp only [if_pos hfew]
      refine Ensures.bind (R := fun _ _ => False) ?_ fun _ _ hw => hw.elim
      exact ensures_fail (P := fun t => t.WellFormed ∧ p.Accepted t) not_false fun _ ht => ht.1
    · simp only [if_neg hfew]
      exact ensures_rewritePattern i hfew

theorem orderly_removeStops (m : RemoveStops) : Orderly m.apply := by
  refine Ensures.bind (R := fun _ w => w.target.WellFormed) (Ensures.target fun _ hw => hw)
    fun t => ?_
  refine Ensures.bind (R := fun _ w => w.target.WellFormed) ?_ fun changed => ?_
  · exact Ensures.mapM fun i _ => orderly_applyToPattern m i
  · by_cases hnone : (!changed.any id) = true
    · simp only [if_pos hnone]
      exact Ensures.warn
    · simp only [if_neg hnone]
      exact Ensures.pure fun _ hw => hw

theorem orderly_adjustSpeed (m : AdjustSpeed) : Orderly m.apply := by
  refine Ensures.bind (R := fun _ w => w.target.WellFormed) (Ensures.target fun _ hw => hw)
    fun t => ?_
  refine Ensures.bind (orderly_revisePatterns (revises_rescale m) m.foundRoutes) fun _ => ?_
  by_cases hnone : (t.patterns.filter (·.route ∈ m.foundRoutes)).all (·.trips.isEmpty) = true
  · simp only [if_pos hnone]
    exact Ensures.warn
  · simp only [if_neg hnone]
    exact Ensures.pure fun _ hw => hw

theorem orderly_adjustDwellTime (m : AdjustDwellTime) : Orderly m.apply :=
  orderly_revisePatterns (revises_redwell m) m.foundRoutes

theorem orderly_placeStop (s : StopSpec) : Orderly (AddTrips.placeStop s) := by
  refine Ensures.bind (R := fun _ w => w.target.WellFormed) (Ensures.target fun _ hw => hw)
    fun t => ?_
  cases t.stopIndex? s.id with
  | some existing =>
    cases s.location? with
    | none => exact Ensures.pure fun _ hw => hw
    | some c => exact ensures_fail not_false fun _ ht => ht
  | none =>
    cases s.location? with
    | none => exact ensures_fail not_false fun _ ht => ht
    | some c => exact ensures_edit (orderly_addStop _)

theorem addTrips_yields (m : AddTrips) :
    Yields m.trips (fun trips => ∀ trip ∈ trips, trip.validate m.dwells.length = .ok ())
      fun e => ¬e.Unreadable :=
  Yields.mapM fun (first, _) _ => Trip.rebuild_yields _ first ⟨m.dwells, m.hops⟩

theorem orderly_addTrips (m : AddTrips) : Orderly m.apply := by
  refine Ensures.bind (R := fun _ w => w.target.WellFormed) ?_ fun stops => ?_
  · exact Ensures.mapM fun s _ => orderly_placeStop s
  · refine Ensures.bind (ensures_edit (orderly_addRoute _)) fun route => ?_
    have htrips := addTrips_yields m
    cases hx : m.trips with
    | error e =>
      rw [hx] at htrips
      exact ensures_fail htrips fun _ ht => ht
    | ok trips =>
      exact Ensures.bind (ensures_edit (orderly_addPattern _)) fun _ => Ensures.pure fun _ hw => hw

/-- A step on the timetable of a network; a shared timetable stays as it is. -/
theorem onTransit_orderly {step : Step TransitLayer α} (h : Orderly step) :
    Ensures (fun w : Worksite Network => w.target.transit.content.WellFormed) (onTransit step)
      (fun _ w => w.target.transit.content.WellFormed)
      fun f w => ¬f.cause.Unreadable ∧ w.target.transit.content.WellFormed := by
  intro w hw
  unfold onTransit
  by_cases hshared : w.target.transit.shared = true
  · rw [if_pos hshared]
    exact ⟨not_false, hw⟩
  · rw [if_neg hshared]
    have hstep := h ⟨w.target.transit.content, w.diagnostics⟩ hw
    cases hx : step ⟨w.target.transit.content, w.diagnostics⟩ with
    | ok a t =>
      rw [hx] at hstep
      exact hstep
    | error f t =>
      rw [hx] at hstep
      exact hstep

end Step

theorem Change.apply_orderly (c : Change) (hc : c.scope.transit = true) :
    Ensures (fun w => w.target.transit.content.WellFormed) c.apply
      (fun _ w => w.target.transit.content.WellFormed)
      fun f w => ¬f.cause.Unreadable ∧ w.target.transit.content.WellFormed := by
  cases c with
  | modifyStreets m => cases hc
  | removeStreets m => cases hc
  | addStreets m => cases hc
  | removeTrips m => exact Step.onTransit_orderly (Step.orderly_removeTrips m)
  | removeStops m => exact Step.onTransit_orderly (Step.orderly_removeStops m)
  | adjustSpeed m => exact Step.onTransit_orderly (Step.orderly_adjustSpeed m)
  | adjustDwellTime m => exact Step.onTransit_orderly (Step.orderly_adjustDwellTime m)
  | addTrips m => exact Step.onTransit_orderly (Step.orderly_addTrips m)

/-- Applying a modification of the timetable, whether it succeeds or fails. -/
theorem Modification.apply_orderly (m : Modification) (hm : m.change.scope.transit = true)
    {n : Network} (hn : n.transit.content.WellFormed) :
    (m.apply n).2.1.transit.content.WellFormed ∧
      ∀ failure, (m.apply n).2.2 = .error failure → ¬failure.cause.Unreadable := by
  have horderly := m.change.apply_orderly hm
  rcases happly : m.apply n with ⟨m', n', f | ⟨⟩⟩
  · obtain ⟨hcause, hleft⟩ := horderly.of_apply_error hn happly
    refine ⟨hleft, fun failure h => ?_⟩
    cases h
    exact hcause
  · exact ⟨horderly.of_apply_ok hn happly, fun failure h => by cases h⟩

/-! ## Resolving -/

/-- None of the remarks is that times cannot be read. -/
def Clean (rs : List Remark) : Prop := ∀ r ∈ rs, ¬r.Unreadable

namespace Clean

theorem nil : Clean [] := fun _ hr => absurd hr List.not_mem_nil

theorem cons {r : Remark} {rs : List Remark} (hr : ¬r.Unreadable) (hrs : Clean rs) :
    Clean (r :: rs) := List.forall_mem_cons.2 ⟨hr, hrs⟩

theorem append {rs ss : List Remark} (hrs : Clean rs) (hss : Clean ss) : Clean (rs ++ ss) :=
  List.forall_mem_append.2 ⟨hrs, hss⟩

theorem ite {c : Prop} [Decidable c] {rs ss : List Remark} (hrs : Clean rs) (hss : Clean ss) :
    Clean (if c then rs else ss) := by
  by_cases hc : c
  · rwa [if_pos hc]
  · rwa [if_neg hc]

theorem map {α : Type} {f : α → Remark} (h : ∀ a, ¬(f a).Unreadable) (xs : List α) :
    Clean (xs.map f) := by
  intro r hr
  obtain ⟨a, -, rfl⟩ := List.mem_map.1 hr
  exact h a

theorem one {r : Remark} (hr : ¬r.Unreadable) : Clean [r] := cons hr nil

/-- Trying a revision out on a well-formed timetable. -/
theorem checkRevision {t : TransitLayer} (ht : t.WellFormed) (routes : List RouteIndex)
    {f : List StopIndex → Trip → Except NetworkError Trip} (hf : Revises f) :
    Clean (t.checkRevision routes f) := by
  have htried : Yields ((t.patterns.filter (·.route ∈ routes)).mapM (Pattern.revise f))
      (fun ps => ∀ p ∈ ps, True) fun e => ¬e.Unreadable := by
    refine Yields.mapM fun p hp => ?_
    have hrevise := Step.revise_yields hf (ht.patterns p (List.mem_filter.1 hp).1).trips
    cases hq : p.revise f with
    | ok q => trivial
    | error e =>
      rw [hq] at hrevise
      exact hrevise
  unfold TransitLayer.checkRevision
  cases hx : (t.patterns.filter (·.route ∈ routes)).mapM (Pattern.revise f) with
  | ok ps => exact nil
  | error e =>
    rw [hx] at htried
    exact one htried

theorem lookUpRoutes (t : TransitLayer) (ids : List String) : Clean (t.lookUpRoutes ids).2 :=
  map (f := Remark.unknownRoute) (fun _ => not_false) _

theorem lookUpStops (t : TransitLayer) (ids : List String) : Clean (t.lookUpStops ids).2 :=
  map (f := Remark.unknownStop) (fun _ => not_false) _

theorem faults (m : AdjustDwellTime) : Clean m.faults := by
  unfold AdjustDwellTime.faults
  refine append ?_ (ite (one not_false) nil)
  cases m.dwell with
  | some dwell =>
    cases m.scale with
    | some scale => exact one not_false
    | none => exact ite (one not_false) nil
  | none =>
    cases m.scale with
    | some scale => exact ite nil (one not_false)
    | none => exact one not_false

theorem stopProblems (t : TransitLayer) (fresh : List String) (specs : List StopSpec) :
    Clean (AddTrips.stopProblems t fresh specs) := by
  induction specs generalizing fresh with
  | nil => exact nil
  | cons s specs ih =>
    unfold AddTrips.stopProblems
    cases s.latitude with
    | some latitude =>
      cases s.longitude with
      | some longitude =>
        exact ite (cons not_false (ih _)) (ite (cons not_false (ih _)) (ih _))
      | none => exact cons not_false (ih _)
    | none =>
      cases s.longitude with
      | some longitude => exact cons not_false (ih _)
      | none => exact ite (ih _) (cons not_false (ih _))

theorem problems (m : AddTrips) (t : TransitLayer) : Clean (m.problems t) := by
  have hcounts : Clean m.countProblems :=
    append (append (append (ite (one not_false) nil) (ite nil (one not_false)))
      (ite nil (one not_false))) (ite (one not_false) nil)
  have htrips : Clean m.tripProblems := by
    refine ite ?_ nil
    have hyields := Step.addTrips_yields m
    cases hx : m.trips with
    | ok trips => exact nil
    | error e =>
      rw [hx] at hyields
      exact one hyields
  exact append (append (append (ite (one not_false) nil) hcounts) htrips) (stopProblems t [] _)

end Clean

theorem Change.resolve_clean (c : Change) (hc : c.scope.transit = true) {n : Network}
    (hn : n.transit.content.WellFormed) : Clean (c.resolve n).2 := by
  cases c with
  | modifyStreets m => cases hc
  | removeStreets m => cases hc
  | addStreets m => cases hc
  | removeTrips m =>
    exact Clean.append (Clean.append (Clean.ite (Clean.one not_false) Clean.nil)
      (Clean.lookUpRoutes _ _)) (Clean.map (f := Remark.unknownTrip) (fun _ => not_false) _)
  | removeStops m =>
    exact Clean.append (Clean.append (Clean.ite (Clean.one not_false) Clean.nil)
      (Clean.lookUpRoutes _ _)) (Clean.lookUpStops _ _)
  | adjustSpeed m =>
    refine Clean.ite (Clean.checkRevision hn _ (revises_rescale _)) ?_
    exact Clean.append (Clean.append (Clean.ite Clean.nil (Clean.one not_false))
      (Clean.ite (Clean.one not_false) Clean.nil)) (Clean.lookUpRoutes _ _)
  | adjustDwellTime m =>
    refine Clean.ite (Clean.checkRevision hn _ (revises_redwell _)) ?_
    exact Clean.append (Clean.append (Clean.faults _) (Clean.lookUpRoutes _ _))
      (Clean.lookUpStops _ _)
  | addTrips m => exact Clean.problems m _

/-! ## All operations -/

/-- Whatever a modification reads of the stops and trips of the pattern is there. -/
structure Pattern.Readable (p : Pattern) : Prop where
  durations : ∀ trip ∈ p.trips, ∃ d, trip.durations? = some d ∧ d.dwells.length = p.stops.length
  positions : ∀ (m : RemoveStops), ∀ k ∈ m.keptPositions p, k < p.stops.length
  skip : ∀ m : RemoveStops, 2 ≤ (m.keptPositions p).length → ∀ trip ∈ p.trips,
    ∃ first d, trip.skip? (m.keptPositions p) = some (first, d)
  dwells : ∀ (m : AdjustDwellTime), ∀ trip ∈ p.trips, ∀ d, trip.durations? = some d →
    ∃ dwells, m.newDwells? p.stops d.dwells = some dwells

theorem Pattern.Accepted.readable {p : Pattern} {t : TransitLayer} (h : p.Accepted t) :
    p.Readable where
  durations := fun trip htrip => Trip.durations?_isSome (h.trips trip htrip)
  positions := fun m => (m.keptPositions_ascending p).2
  skip := by
    intro m hm trip htrip
    obtain ⟨hascending, hbounds⟩ := m.keptPositions_ascending p
    have hkeep : m.keptPositions p ≠ [] := fun hnil => by
      rw [hnil] at hm
      cases hm
    obtain ⟨first, d, hskip, -⟩ :=
      Trip.skip?_isSome (h.trips trip htrip) hascending hbounds hkeep
    exact ⟨first, d, hskip⟩
  dwells := by
    intro m trip htrip d hd
    obtain ⟨d', hd', hlength⟩ := Trip.durations?_isSome (h.trips trip htrip)
    rw [hd] at hd'
    cases hd'
    exact ⟨_, m.newDwells?_eq hlength⟩

namespace TransitLayer

/-- Every operation on the timetable leaves a well-formed one, whether it succeeds or fails, and reads
and writes only what is there. -/
structure Safe (t : TransitLayer) : Prop where
  addStop : ∀ stop, ((TransitLayer.addStop stop).attempt t).2.WellFormed
  addRoute : ∀ route, ((TransitLayer.addRoute route).attempt t).2.WellFormed
  addPattern : ∀ pattern, ((TransitLayer.addPattern pattern).attempt t).2.WellFormed
  withFeed : ∀ name checksum, (t.withFeed name checksum).WellFormed
  retainPatterns : ∀ keep, (t.retainPatterns keep).WellFormed
  retainPatternsFrom : ∀ {σ : Type} (keep : σ → Pattern → Bool × σ) (s : σ),
    (t.retainPatternsFrom keep s).WellFormed
  withMembership : t.withMembership.WellFormed
  membersInRange : t.MembersInRange
  readable : ∀ p ∈ t.patterns, p.Readable
  resolve : ∀ (m : Modification) (n : Network), m.change.scope.transit = true →
    n.transit.content = t → ∀ r ∈ (m.change.resolve n).2, ¬r.Unreadable
  apply : ∀ (m : Modification) (n : Network), m.change.scope.transit = true →
    n.transit.content = t → (m.apply n).2.1.transit.content.WellFormed ∧
      ∀ failure, (m.apply n).2.2 = .error failure → ¬failure.cause.Unreadable

theorem WellFormed.safe {t : TransitLayer} (h : t.WellFormed) : t.Safe where
  addStop := fun stop => (orderly_addStop stop).keeps.attempt h
  addRoute := fun route => (orderly_addRoute route).keeps.attempt h
  addPattern := fun pattern => (orderly_addPattern pattern).keeps.attempt h
  withFeed := h.withFeed
  retainPatterns := h.retainPatterns
  retainPatternsFrom := h.retainPatternsFrom
  withMembership := h.withMembership
  membersInRange := h.membersInRange
  readable := fun p hp => (h.patterns p hp).readable
  resolve := fun m _ hm hn => m.change.resolve_clean hm (hn ▸ h)
  apply := fun m _ hm hn => m.apply_orderly hm (hn ▸ h)

/-- The timetables that operations make of the empty one, in any order and however often they are
refused or fail half way. -/
inductive Built : TransitLayer → Prop
  | empty : Built {}
  | addStop {t : TransitLayer} (stop : Stop) :
    Built t → Built ((TransitLayer.addStop stop).attempt t).2
  | addRoute {t : TransitLayer} (route : Route) :
    Built t → Built ((TransitLayer.addRoute route).attempt t).2
  | addPattern {t : TransitLayer} (pattern : Pattern) :
    Built t → Built ((TransitLayer.addPattern pattern).attempt t).2
  | withFeed {t : TransitLayer} (name : String) (checksum : UInt64) :
    Built t → Built (t.withFeed name checksum)
  | retainPatterns {t : TransitLayer} (keep : Pattern → Bool) :
    Built t → Built (t.retainPatterns keep)
  | retainPatternsFrom {t : TransitLayer} {σ : Type} (keep : σ → Pattern → Bool × σ) (s : σ) :
    Built t → Built (t.retainPatternsFrom keep s)
  | withMembership {t : TransitLayer} : Built t → Built t.withMembership
  | apply {n : Network} (m : Modification) : m.change.scope.transit = true →
    Built n.transit.content → Built (m.apply n).2.1.transit.content

/-- A timetable that was made by operations only is well formed. -/
theorem wellFormed_of_built {t : TransitLayer} (h : Built t) : t.WellFormed := by
  induction h with
  | empty => exact WellFormed.empty
  | addStop stop _ ih => exact ih.safe.addStop stop
  | addRoute route _ ih => exact ih.safe.addRoute route
  | addPattern pattern _ ih => exact ih.safe.addPattern pattern
  | withFeed name checksum _ ih => exact ih.safe.withFeed name checksum
  | retainPatterns keep _ ih => exact ih.safe.retainPatterns keep
  | retainPatternsFrom keep s _ ih => exact ih.safe.retainPatternsFrom keep s
  | withMembership _ ih => exact ih.safe.withMembership
  | apply m hm _ ih => exact (ih.safe.apply m _ hm rfl).1

/-- The empty timetable is well formed, and no operation on a well-formed timetable breaks it or
reads what is not there. -/
theorem wellFormed_empty_and_safe :
    ({} : TransitLayer).WellFormed ∧ ∀ t : TransitLayer, t.WellFormed → t.Safe :=
  ⟨WellFormed.empty, fun _ ht => ht.safe⟩

end TransitLayer

namespace Sample

theorem wellFormed_twoLines : twoLines.WellFormed := by
  refine Keeps.attempt (I := TransitLayer.WellFormed) ?_ TransitLayer.WellFormed.empty
  have haddLine : ∀ route calls d trips, Keeps TransitLayer.WellFormed
      (addLine route calls d trips) := by
    intro route calls d trips
    unfold addLine
    cases trips.mapM fun trip : String × Seconds => Trip.build trip.1 trip.2 d with
    | error e => exact Keeps.throw
    | ok trips =>
      exact Keeps.bind (TransitLayer.orderly_addPattern _).keeps fun _ => Keeps.pure
  refine Keeps.bind (Keeps.modify fun t ht => ht.withFeed "gtfs1" 100) fun _ => ?_
  refine Keeps.bind (Keeps.forM fun stop _ => ?_) fun _ => ?_
  · exact Keeps.bind (TransitLayer.orderly_addStop _).keeps fun _ => Keeps.pure
  · refine Keeps.bind (TransitLayer.orderly_addRoute _).keeps fun bus => ?_
    refine Keeps.bind (TransitLayer.orderly_addRoute _).keeps fun tram => ?_
    exact Keeps.bind (haddLine _ _ _ _) fun _ => haddLine _ _ _ _

theorem wellFormed_town : town.transit.content.WellFormed := wellFormed_twoLines.withMembership

/-- Takes the stop where the lines cross and one end of the tram line out of all patterns. -/
def cut : Modification :=
  ((⟨.removeStops { stops := ["x", "c"] }, {}⟩ : Modification).resolve town).1

/-- The tram line would keep a single stop, so that the modification fails when the bus line is
already changed; what it leaves behind is well formed. -/
theorem wellFormed_cut :
    ((cut.apply town).2.2.isOk = false ∧
        (cut.apply town).1.diagnostics.warnings = [.tooFewStopsKept 1 1 3]) ∧
      (cut.apply town).2.1.transit.content.patterns ≠ town.transit.content.patterns ∧
      (cut.apply town).2.1.transit.content.WellFormed := by
  refine ⟨by decide +kernel, by decide +kernel, ?_⟩
  exact ((TransitLayer.wellFormed_empty_and_safe.2 _ wellFormed_town).apply cut town rfl rfl).1

end Sample

end Multimodal
