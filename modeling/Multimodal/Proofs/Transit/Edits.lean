import Multimodal.Modification.Stops
import Multimodal.Modification.Trips
import Multimodal.Proofs.Effect

/-! # Operations on the timetable

* `addStop_apply`, `addRoute_apply`, `addPattern_apply`, `openPattern_apply`: what an operation does
  to a layer.
* `Step.removeTrips_apply`: taking trips out, pattern by pattern and then position by position.
* `TransitLayer.Stable`: the properties that neither a stop more, a route more nor other patterns
  break.
* `Stable.removeTrips`, `Stable.removeStops`, `Stable.revisePatterns`, `Stable.addTrips`: the
  modifications keep them.
-/

namespace Multimodal

namespace TransitLayer

/-! ## Single operations -/

/-- The layer with one more stop. -/
def withStop (t : TransitLayer) (stop : Stop) : TransitLayer :=
  { t with stops := t.stops.push stop, membershipStale := true }

/-- The layer with one more route. -/
def withRoute (t : TransitLayer) (route : Route) : TransitLayer :=
  { t with routes := t.routes.push route, membershipStale := true }

/-- The layer with these patterns and membership lists that lag behind. -/
def withPatterns (t : TransitLayer) (patterns : List Pattern) : TransitLayer :=
  { t with patterns, membershipStale := true }

theorem addStop_apply (t : TransitLayer) (stop : Stop) :
    addStop stop t =
      if (t.stopIndex? stop.id).isSome then .error (.duplicateStop stop.id) t
      else .ok t.stops.size (t.withStop stop) := by
  unfold addStop
  show EStateM.bind get _ t = _
  by_cases h : (t.stopIndex? stop.id).isSome
  · simp only [EStateM.bind, get, getThe, MonadStateOf.get, EStateM.get, if_pos h]
    rfl
  · simp only [EStateM.bind, get, getThe, MonadStateOf.get, EStateM.get, if_neg h]
    rfl

theorem addRoute_apply (t : TransitLayer) (route : Route) :
    addRoute route t =
      if (t.routeIndex? route.id).isSome then .error (.duplicateRoute route.id) t
      else .ok t.routes.size (t.withRoute route) := by
  unfold addRoute
  show EStateM.bind get _ t = _
  by_cases h : (t.routeIndex? route.id).isSome
  · simp only [EStateM.bind, get, getThe, MonadStateOf.get, EStateM.get, if_pos h]
    rfl
  · simp only [EStateM.bind, get, getThe, MonadStateOf.get, EStateM.get, if_neg h]
    rfl

theorem addPattern_apply (t : TransitLayer) (pattern : Pattern) :
    addPattern pattern t =
      match t.checkPattern pattern with
      | .error e => .error e t
      | .ok () => .ok t.patterns.length (t.withPatterns (t.patterns ++ [pattern])) := by
  unfold addPattern
  show EStateM.bind get _ t = _
  cases h : t.checkPattern pattern with
  | error e =>
    simp only [EStateM.bind, get, getThe, MonadStateOf.get, EStateM.get, h]
    rfl
  | ok u =>
    simp only [EStateM.bind, get, getThe, MonadStateOf.get, EStateM.get, h]
    rfl

theorem openPattern_apply (t : TransitLayer) (i : PatternIndex) :
    openPattern i t =
      match t.patterns[i]? with
      | none => .error (.patternNotFound i) (t.withPatterns t.patterns)
      | some pattern => .ok pattern (t.withPatterns t.patterns) := by
  unfold openPattern
  show EStateM.bind (modify _) _ t = _
  cases h : t.patterns[i]? with
  | none =>
    simp only [EStateM.bind, modify, modifyGet, MonadStateOf.modifyGet, EStateM.modifyGet]
    show EStateM.bind get _ _ = _
    simp only [EStateM.bind, get, getThe, MonadStateOf.get, EStateM.get, h]
    rfl
  | some pattern =>
    simp only [EStateM.bind, modify, modifyGet, MonadStateOf.modifyGet, EStateM.modifyGet]
    show EStateM.bind get _ _ = _
    simp only [EStateM.bind, get, getThe, MonadStateOf.get, EStateM.get, h]
    rfl

/-- The last part of taking stops out of a pattern, which keeps enough of them. -/
def rewritePattern (m : RemoveStops) (i : PatternIndex) (p : Pattern) : Step TransitLayer Bool := do
  let trips ← Step.edit (RemoveStops.applyToPattern.liftExcept
    (p.trips.mapM (Trip.skip (m.keptPositions p))))
  let stops := p.stops.filter (· ∉ m.foundStops)
  Step.edit (modify (·.replacePattern i { p with stops, trips }))
  return true

theorem rewritePattern_apply {m : RemoveStops} {p : Pattern} {trips : List Trip}
    (h : p.trips.mapM (Trip.skip (m.keptPositions p)) = .ok trips) (i : PatternIndex)
    (w : Worksite TransitLayer) :
    rewritePattern m i p w =
      .ok true ⟨w.target.replacePattern i
        { p with stops := p.stops.filter (· ∉ m.foundStops), trips }, w.diagnostics⟩ := by
  unfold rewritePattern
  rw [h]
  rfl

/-! ## Trips taken out -/

theorem retainFrom_sublist {σ α : Type} (keep : σ → α → Bool × σ) (s : σ) (xs : List α) :
    (retainFrom keep s xs).Sublist xs := by
  induction xs generalizing s with
  | nil => exact List.Sublist.refl _
  | cons x xs ih =>
    rw [retainFrom]
    split
    · exact (ih _).cons_cons x
    · exact (ih _).cons x

theorem retainFrom_counting {α : Type} (keep : Nat → Bool) {f : α → Bool} {xs : List α} {i : Nat}
    (h : ∀ k x, xs[k]? = some x → keep (i + k) = f x) :
    retainFrom (fun position _ => (keep position, position + 1)) i xs = xs.filter f := by
  induction xs generalizing i with
  | nil => rfl
  | cons x xs ih =>
    have hfirst : keep i = f x := h 0 x rfl
    have hrest : retainFrom (fun position _ => (keep position, position + 1)) (i + 1) xs =
        xs.filter f := ih fun k y hy => by
      rw [Nat.add_assoc, Nat.add_comm 1 k]
      exact h (k + 1) y hy
    rw [retainFrom, List.filter_cons, hrest, hfirst]

end TransitLayer

namespace RemoveTrips

/-- The layer without the trips, and without the patterns that have none. -/
def stripLayer (m : RemoveTrips) (t : TransitLayer) : TransitLayer :=
  t.withPatterns ((t.patterns.map m.strip).filter (!·.trips.isEmpty))

/-- The positions of the patterns without trips are noted, and no others. -/
def Notes (emptied : IdSet) (patterns : List Pattern) : Prop :=
  ∀ k, k ∈ emptied ↔ ∃ p, patterns[k]? = some p ∧ p.trips.isEmpty = true

theorem notes_empty : Notes .empty [] := by
  intro k
  simp

variable {m : RemoveTrips} {emptied : IdSet} {w : Worksite TransitLayer} {p : Pattern}

/-- One more pattern, the position of which is noted if it has no trips. -/
theorem Notes.concat {done : List Pattern} (h : Notes emptied done) (p : Pattern) :
    Notes (if p.trips.isEmpty then emptied.insert done.length else emptied) (done ++ [p]) := by
  intro k
  have hnew : k ∈ (if p.trips.isEmpty then emptied.insert done.length else emptied) ↔
      (k = done.length ∧ p.trips.isEmpty = true) ∨ k ∈ emptied := by
    by_cases hp : p.trips.isEmpty = true
    · rw [if_pos hp, IdSet.mem_insert, and_iff_left hp]
    · rw [if_neg hp, or_iff_right fun hk => hp hk.2]
  rw [hnew, h k]
  by_cases hk : k < done.length
  · rw [List.getElem?_append_left hk, or_iff_right fun heq => absurd heq.1 (Nat.ne_of_lt hk)]
  · have hbeyond : done[k]? = none := List.getElem?_eq_none (Nat.not_lt.1 hk)
    rw [List.getElem?_append_right (Nat.not_lt.1 hk), hbeyond, List.getElem?_singleton]
    by_cases heq : k = done.length
    · simp [heq]
    · have hpast : k - done.length ≠ 0 := by omega
      simp [heq, hpast]

theorem stripPattern_apply {i : PatternIndex} (hp : w.target.patterns[i]? = some p) :
    m.stripPattern emptied i w =
      .ok (if (m.strip p).trips.isEmpty then emptied.insert i else emptied)
        ⟨w.target.withPatterns (w.target.patterns.set i (m.strip p)), w.diagnostics⟩ := by
  have hopen : Step.edit (TransitLayer.openPattern i) w =
      .ok p ⟨w.target.withPatterns w.target.patterns, w.diagnostics⟩ :=
    Step.edit_of_ok (by rw [TransitLayer.openPattern_apply, hp])
  unfold stripPattern
  rw [bind_of_ok hopen]
  rfl

/-- Stripping all patterns in turn, some of them being stripped already. -/
theorem stripPatterns_apply {done rest : List Pattern} (hpatterns : w.target.patterns = done ++ rest)
    (hnotes : Notes emptied done) :
    ∃ emptied' stale, (List.range' done.length rest.length).foldlM m.stripPattern emptied w =
        .ok emptied' ⟨{ w.target with
          patterns := done ++ rest.map m.strip
          membershipStale := stale }, w.diagnostics⟩ ∧
      Notes emptied' (done ++ rest.map m.strip) := by
  induction rest generalizing done emptied w with
  | nil =>
    rw [List.map_nil, List.append_nil] at *
    refine ⟨emptied, w.target.membershipStale, ?_, hnotes⟩
    rw [← hpatterns]
    rfl
  | cons p rest ih =>
    have hthere : w.target.patterns[done.length]? = some p := by
      rw [hpatterns, List.getElem?_append_right (Nat.le_refl _), Nat.sub_self]
      rfl
    have hset : w.target.patterns.set done.length (m.strip p) = (done ++ [m.strip p]) ++ rest := by
      rw [hpatterns, List.set_append_right _ _ (Nat.le_refl _), Nat.sub_self, List.set_cons_zero,
        List.append_assoc]
      rfl
    obtain ⟨emptied', stale, hrun, hnotes'⟩ := ih
      (w := ⟨w.target.withPatterns (w.target.patterns.set done.length (m.strip p)), w.diagnostics⟩)
      hset (hnotes.concat (m.strip p))
    rw [List.length_append, List.length_singleton] at hrun
    rw [List.append_assoc] at hrun hnotes'
    refine ⟨emptied', stale, ?_, hnotes'⟩
    rw [List.length_cons, List.range'_succ, List.foldlM_cons, bind_of_ok (stripPattern_apply hthere),
      hrun]
    rfl

/-- Dropping the positions noted is dropping the patterns without trips. -/
theorem Notes.retainFrom_eq {patterns : List Pattern} (h : Notes emptied patterns) :
    TransitLayer.retainFrom (fun position _ => (decide (position ∉ emptied), position + 1)) 0
      patterns = patterns.filter (!·.trips.isEmpty) := by
  refine TransitLayer.retainFrom_counting (fun position => decide (position ∉ emptied))
    fun k p hp => ?_
  have hk : decide (k ∈ emptied) = p.trips.isEmpty := by
    rw [Bool.eq_iff_iff, decide_eq_true_iff, h k, hp]
    simp
  rw [Nat.zero_add, decide_not, hk]

end RemoveTrips

/-- Taking trips out always succeeds, with a remark exactly if there are as many trips as before. -/
theorem Step.removeTrips_apply (m : RemoveTrips) (w : Worksite TransitLayer) :
    m.apply w = .ok () ⟨m.stripLayer w.target,
      if w.target.tripCount = (m.stripLayer w.target).tripCount then
        w.diagnostics.warn .noTripsRemoved
      else w.diagnostics⟩ := by
  obtain ⟨emptied, stale, hstripped, hnotes⟩ :=
    RemoveTrips.stripPatterns_apply (m := m) (List.nil_append _).symm RemoveTrips.notes_empty (w := w)
  rw [List.length_nil, ← List.range_eq_range', List.nil_append] at hstripped
  rw [List.nil_append] at hnotes
  have hdrop : Step.edit (modify (·.retainPatternsFrom
      (fun position _ => (decide (position ∉ emptied), position + 1)) 0))
      ⟨{ w.target with
        patterns := w.target.patterns.map m.strip
        membershipStale := stale }, w.diagnostics⟩ =
      .ok ⟨⟩ ⟨m.stripLayer w.target, w.diagnostics⟩ := by
    refine Step.edit_of_ok ?_
    show EStateM.Result.ok _ (TransitLayer.retainPatternsFrom _ _ _) = _
    unfold TransitLayer.retainPatternsFrom
    rw [hnotes.retainFrom_eq]
    rfl
  unfold RemoveTrips.apply
  rw [bind_of_ok (Step.target_apply w), bind_of_ok hstripped, bind_of_ok hdrop,
    bind_of_ok (Step.target_apply _)]
  by_cases hcount : w.target.tripCount = (m.stripLayer w.target).tripCount
  · rw [if_pos hcount, if_pos hcount]
    rfl
  · rw [if_neg hcount, if_neg hcount]
    rfl

namespace TransitLayer

/-! ## Stable properties -/

/-- A property that survives every way of changing a timetable: a stop more, a route more, and any
other patterns. -/
structure Stable (T : TransitLayer → Prop) : Prop where
  stop : ∀ t stop, T t → T (t.withStop stop)
  route : ∀ t route, T t → T (t.withRoute route)
  patterns : ∀ (t : TransitLayer) patterns stale, T t → T { t with patterns, membershipStale := stale }

namespace Stable

variable {T : TransitLayer → Prop} (h : Stable T)
include h

theorem addStop (stop : Stop) : Keeps T (addStop stop) := by
  intro t ht
  rw [addStop_apply]
  by_cases hid : (t.stopIndex? stop.id).isSome
  · rw [if_pos hid]
    exact ht
  · rw [if_neg hid]
    exact h.stop t stop ht

theorem addRoute (route : Route) : Keeps T (addRoute route) := by
  intro t ht
  rw [addRoute_apply]
  by_cases hid : (t.routeIndex? route.id).isSome
  · rw [if_pos hid]
    exact ht
  · rw [if_neg hid]
    exact h.route t route ht

theorem addPattern (pattern : Pattern) : Keeps T (addPattern pattern) := by
  intro t ht
  rw [addPattern_apply]
  cases t.checkPattern pattern with
  | error e => exact ht
  | ok u => exact h.patterns t _ true ht

theorem openPattern (i : PatternIndex) : Keeps T (openPattern i) := by
  intro t ht
  rw [openPattern_apply]
  cases t.patterns[i]? with
  | none => exact h.patterns t _ true ht
  | some pattern => exact h.patterns t _ true ht

theorem replacePattern (i : PatternIndex) (pattern : Pattern) :
    Keeps T (modify (·.replacePattern i pattern) : Edit TransitLayer PUnit) :=
  Keeps.modify fun t ht => h.patterns t _ t.membershipStale ht

/-! ## Modifications of the timetable -/

theorem removeTrips (m : RemoveTrips) : Keeps (fun w => T w.target) m.apply := by
  intro w hw
  rw [Step.removeTrips_apply]
  exact h.patterns w.target _ true hw

theorem applyToPattern (m : RemoveStops) (i : PatternIndex) :
    Keeps (fun w => T w.target) (m.applyToPattern i) := by
  refine Keeps.bind (Keeps.edit (h.openPattern i)) fun p => ?_
  by_cases hskip : (!m.concerns p.route || (m.keptPositions p).length = p.stops.length) = true
  · simp only [if_pos hskip]
    exact Keeps.pure
  · simp only [if_neg hskip]
    have hrest : Keeps (fun w => T w.target) (rewritePattern m i p) := by
      refine Keeps.bind (Keeps.edit ?_) fun trips => ?_
      · cases p.trips.mapM (Trip.skip (m.keptPositions p)) with
        | ok trips => exact Keeps.pure
        | error e => exact Keeps.throw
      · exact Keeps.bind (Keeps.edit (h.replacePattern i _)) fun _ => Keeps.pure
    by_cases hfew : (m.keptPositions p).length < 2
    · simp only [if_pos hfew]
      exact Keeps.bind Keeps.fail fun _ => hrest
    · simp only [if_neg hfew]
      exact hrest

theorem removeStops (m : RemoveStops) : Keeps (fun w => T w.target) m.apply := by
  refine Keeps.bind Keeps.target fun t => ?_
  refine Keeps.bind (Keeps.mapM fun i _ => h.applyToPattern m i) fun changed => ?_
  by_cases hnone : (!changed.any id) = true
  · simp only [if_pos hnone]
    exact Keeps.warn
  · simp only [if_neg hnone]
    exact Keeps.pure

theorem revisePatterns (routes : List RouteIndex)
    (f : List StopIndex → Trip → Except NetworkError Trip) :
    Keeps (fun w => T w.target) (Step.revisePatterns routes f) := by
  refine Keeps.bind Keeps.target fun t => Keeps.forM fun i _ => ?_
  refine Keeps.bind (Keeps.edit (h.openPattern i)) fun p => ?_
  cases p.revise f with
  | error e => exact Keeps.fail
  | ok revised => exact Keeps.edit (h.replacePattern i revised)

theorem adjustSpeed (m : AdjustSpeed) : Keeps (fun w => T w.target) m.apply := by
  refine Keeps.bind Keeps.target fun t => ?_
  refine Keeps.bind (h.revisePatterns m.foundRoutes m.rescale) fun _ => ?_
  by_cases hnone : (t.patterns.filter (·.route ∈ m.foundRoutes)).all (·.trips.isEmpty) = true
  · simp only [if_pos hnone]
    exact Keeps.warn
  · simp only [if_neg hnone]
    exact Keeps.pure

theorem placeStop (s : StopSpec) : Keeps (fun w => T w.target) (AddTrips.placeStop s) := by
  refine Keeps.bind Keeps.target fun t => ?_
  cases t.stopIndex? s.id with
  | some existing =>
    cases s.location? with
    | none => exact Keeps.pure
    | some c => exact Keeps.fail
  | none =>
    cases s.location? with
    | none => exact Keeps.fail
    | some c => exact Keeps.edit (h.addStop _)

theorem addTrips (m : AddTrips) : Keeps (fun w => T w.target) m.apply := by
  refine Keeps.bind (Keeps.mapM fun s _ => h.placeStop s) fun stops => ?_
  refine Keeps.bind (Keeps.edit (h.addRoute _)) fun route => ?_
  cases m.trips with
  | error e => exact Keeps.fail
  | ok trips => exact Keeps.bind (Keeps.edit (h.addPattern _)) fun _ => Keeps.pure

end Stable

end TransitLayer

end Multimodal
