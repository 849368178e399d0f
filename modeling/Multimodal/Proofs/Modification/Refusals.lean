import Multimodal.Proofs.Modification.Layers
import Multimodal.Proofs.Transit.Edits

/-! # What modifications are refused for

A part that somebody else holds may not be changed, and a request for it is refused.  Nothing else that
a modification does is ever refused for that reason: neither what it looks up when it is resolved, nor
the changes that it makes to a timetable of its own.

* `NetworkError.OfSharing`, `Remark.OfSharing`: the refusals of parts that somebody else holds.
* `Blames`: what the errors of an operation have in common, wherever it starts.
* `Change.resolve_blames`: resolving never comes upon a shared part.
* `Change.apply_blames`: neither does a change of a timetable that nobody else holds.
-/

namespace Multimodal

/-- The error is the refusal of a part that somebody else holds. -/
def NetworkError.OfSharing : NetworkError → Prop
  | partShared _ => True
  | vertexNotFound _ | edgeNotFound _ | stopNotFound _ | routeNotFound _ | patternNotFound _
  | duplicateStop _ | duplicateRoute _ | invalidTrip _ _ => False

/-- The remark is such a refusal. -/
def Remark.OfSharing : Remark → Prop
  | refused e => e.OfSharing
  | _ => False

/-! ## The errors of an operation -/

section Blames

variable {ε σ α β : Type}

/-- Whatever the operation fails with has the property. -/
def Blames (F : ε → Prop) (x : EStateM ε σ α) : Prop :=
  Ensures (fun _ => True) x (fun _ _ => True) fun e _ => F e

namespace Blames

variable {F : ε → Prop} {x : EStateM ε σ α}

protected theorem pure {a : α} : Blames F (pure a : EStateM ε σ α) := Ensures.pure fun _ _ => trivial

protected theorem modify {f : σ → σ} : Blames F (modify f : EStateM ε σ PUnit) :=
  Ensures.modify fun _ _ => trivial

protected theorem bind {k : α → EStateM ε σ β} (hx : Blames F x) (hk : ∀ a, Blames F (k a)) :
    Blames F (x >>= k) := Ensures.bind hx hk

protected theorem forM {l : List α} {f : α → EStateM ε σ PUnit} (h : ∀ a ∈ l, Blames F (f a)) :
    Blames F (l.forM f) := Ensures.forM h

protected theorem mapM {l : List α} {f : α → EStateM ε σ β} (h : ∀ a ∈ l, Blames F (f a)) :
    Blames F (l.mapM f) := Ensures.mapM h

end Blames

end Blames

/-- The step never comes upon a part that somebody else holds. -/
abbrev Step.OnOwn {σ α : Type} (step : Step σ α) : Prop :=
  Blames (fun f : StepFailure => ¬f.cause.OfSharing) step

namespace Step.OnOwn

variable {σ α : Type}

protected theorem target : OnOwn (Step.target : Step σ σ) := fun _ _ => trivial

protected theorem edit {x : Edit σ α} (h : Blames (fun e : NetworkError => ¬e.OfSharing) x) :
    OnOwn (Step.edit x) :=
  Ensures.edit (F := fun f _ => ¬f.cause.OfSharing) h fun _ _ hr => hr

protected theorem warn {r : Remark} : OnOwn (Step.warn r : Step σ Unit) := fun _ _ => trivial

protected theorem fail {r : Remark} (h : ¬r.OfSharing) : OnOwn (Step.fail r : Step σ α) :=
  fun _ _ => h

end Step.OnOwn

/-! ## Trips laid out anew -/

/-- The computation fails for other reasons only. -/
abbrev YieldsOwn {α : Type} (x : Except NetworkError α) : Prop :=
  Yields x (fun _ => True) fun e => ¬e.OfSharing

namespace YieldsOwn

variable {α β : Type}

protected theorem mapM {f : α → Except NetworkError β} {l : List α} (h : ∀ a, YieldsOwn (f a)) :
    YieldsOwn (l.mapM f) := by
  have hall := Yields.mapM (l := l) fun a _ => h a
  cases hx : l.mapM f with
  | ok bs => trivial
  | error e =>
    rw [hx] at hall
    exact hall

theorem build (id : String) (first : Seconds) (d : Durations) : YieldsOwn (Trip.build id first d) := by
  unfold Trip.build
  cases Trip.ofDurations id first d with
  | ok t => trivial
  | error problem => exact not_false

theorem rebuild (id : String) (first : Seconds) (d : Durations) :
    YieldsOwn (Trip.rebuild id first d) := by
  refine Yields.bind (build id first d) fun trip _ => ?_
  by_cases hlong : serviceWindow < trip.finish
  · simp only [if_pos hlong]
    exact not_false
  · simp only [if_neg hlong]
    trivial

theorem durations (t : Trip) : YieldsOwn t.durations := by
  unfold Trip.durations
  cases t.durations? with
  | none => exact not_false
  | some d => trivial

theorem skip (keep : List Nat) (t : Trip) : YieldsOwn (t.skip keep) := by
  unfold Trip.skip
  cases t.skip? keep with
  | none => exact not_false
  | some told => exact build t.id told.1 told.2

theorem rescale (m : AdjustSpeed) (stops : List StopIndex) (t : Trip) :
    YieldsOwn (m.rescale stops t) :=
  Yields.bind (durations t) fun _ _ => rebuild _ _ _

theorem redwell (m : AdjustDwellTime) (stops : List StopIndex) (t : Trip) :
    YieldsOwn (m.redwell stops t) := by
  refine Yields.bind (durations t) fun d _ => ?_
  cases m.newDwells? stops d.dwells with
  | none => exact not_false
  | some dwells => exact rebuild _ _ _

theorem trips (m : AddTrips) : YieldsOwn m.trips := YieldsOwn.mapM fun _ => rebuild _ _ _

theorem validate (t : Trip) (stops : Nat) : YieldsOwn (t.validate stops) := by
  unfold Trip.validate
  cases t.problem? stops with
  | none => trivial
  | some problem => exact not_false

theorem revise {f : List StopIndex → Trip → Except NetworkError Trip}
    (hf : ∀ stops t, YieldsOwn (f stops t)) (p : Pattern) : YieldsOwn (p.revise f) :=
  Yields.bind (YieldsOwn.mapM fun t => hf p.stops t) fun _ _ => trivial

end YieldsOwn

/-! ## Operations on the timetable -/

namespace TransitLayer

theorem blames_addStop (stop : Stop) :
    Blames (fun e : NetworkError => ¬e.OfSharing) (addStop stop) := by
  intro t _
  rw [addStop_apply]
  by_cases hid : (t.stopIndex? stop.id).isSome
  · rw [if_pos hid]
    exact not_false
  · rw [if_neg hid]
    trivial

theorem blames_addRoute (route : Route) :
    Blames (fun e : NetworkError => ¬e.OfSharing) (addRoute route) := by
  intro t _
  rw [addRoute_apply]
  by_cases hid : (t.routeIndex? route.id).isSome
  · rw [if_pos hid]
    exact not_false
  · rw [if_neg hid]
    trivial

theorem yieldsOwn_checkPattern (t : TransitLayer) (p : Pattern) : YieldsOwn (t.checkPattern p) := by
  have htrips : YieldsOwn (p.trips.forM (·.validate p.stops.length)) := by
    have hall := Yields.forM (l := p.trips) fun trip _ =>
      YieldsOwn.validate trip p.stops.length
    cases hx : p.trips.forM (·.validate p.stops.length) with
    | ok u => trivial
    | error e =>
      rw [hx] at hall
      exact hall
  unfold checkPattern
  by_cases hroute : t.routes.size ≤ p.route
  · simp only [if_pos hroute]
    exact not_false
  · simp only [if_neg hroute]
    cases p.stops.find? (t.stops.size ≤ ·) with
    | some missing => exact not_false
    | none => exact htrips

theorem blames_addPattern (p : Pattern) :
    Blames (fun e : NetworkError => ¬e.OfSharing) (addPattern p) := by
  intro t _
  have hcheck := t.yieldsOwn_checkPattern p
  rw [addPattern_apply]
  cases hx : t.checkPattern p with
  | error e =>
    rw [hx] at hcheck
    exact hcheck
  | ok u => trivial

theorem blames_openPattern (i : PatternIndex) :
    Blames (fun e : NetworkError => ¬e.OfSharing) (openPattern i) := by
  intro t _
  rw [openPattern_apply]
  cases t.patterns[i]? with
  | none => exact not_false
  | some p => trivial

end TransitLayer

/-! ## Changes of the timetable -/

namespace Step.OnOwn

theorem removeTrips (m : RemoveTrips) : OnOwn m.apply := by
  intro w _
  rw [Step.removeTrips_apply]
  trivial

theorem applyToPattern (m : RemoveStops) (i : PatternIndex) : OnOwn (m.applyToPattern i) := by
  refine Blames.bind (Step.OnOwn.edit (TransitLayer.blames_openPattern i)) fun p => ?_
  by_cases hskip : (!m.concerns p.route || (m.keptPositions p).length = p.stops.length) = true
  · simp only [if_pos hskip]
    exact Blames.pure
  · simp only [if_neg hskip]
    have hrest : OnOwn (TransitLayer.rewritePattern m i p) := by
      refine Blames.bind (Step.OnOwn.edit ?_) fun trips => ?_
      · have htrips : YieldsOwn (p.trips.mapM (Trip.skip (m.keptPositions p))) :=
          YieldsOwn.mapM fun t => YieldsOwn.skip _ t
        cases hx : p.trips.mapM (Trip.skip (m.keptPositions p)) with
        | ok trips => exact Blames.pure
        | error e =>
          rw [hx] at htrips
          exact fun _ _ => htrips
      · exact Blames.bind (Step.OnOwn.edit Blames.modify) fun _ => Blames.pure
    by_cases hfew : (m.keptPositions p).length < 2
    · simp only [if_pos hfew]
      exact Blames.bind (Step.OnOwn.fail not_false) fun _ => hrest
    · simp only [if_neg hfew]
      exact hrest

theorem removeStops (m : RemoveStops) : OnOwn m.apply := by
  refine Blames.bind Step.OnOwn.target fun t => ?_
  refine Blames.bind (Blames.mapM fun i _ => applyToPattern m i) fun changed => ?_
  by_cases hnone : (!changed.any id) = true
  · simp only [if_pos hnone]
    exact Step.OnOwn.warn
  · simp only [if_neg hnone]
    exact Blames.pure

theorem revisePatterns {f : List StopIndex → Trip → Except NetworkError Trip}
    (hf : ∀ stops t, YieldsOwn (f stops t)) (routes : List RouteIndex) :
    OnOwn (Step.revisePatterns routes f) := by
  refine Blames.bind Step.OnOwn.target fun t => Blames.forM fun i _ => ?_
  refine Blames.bind (Step.OnOwn.edit (TransitLayer.blames_openPattern i)) fun p => ?_
  have hrevise := YieldsOwn.revise hf p
  cases hx : p.revise f with
  | error e =>
    rw [hx] at hrevise
    exact Step.OnOwn.fail hrevise
  | ok revised => exact Step.OnOwn.edit Blames.modify

theorem adjustSpeed (m : AdjustSpeed) : OnOwn m.apply := by
  refine Blames.bind Step.OnOwn.target fun t => ?_
  refine Blames.bind (revisePatterns (YieldsOwn.rescale m) m.foundRoutes) fun _ => ?_
  by_cases hnone : (t.patterns.filter (·.route ∈ m.foundRoutes)).all (·.trips.isEmpty) = true
  · simp only [if_pos hnone]
    exact Step.OnOwn.warn
  · simp only [if_neg hnone]
    exact Blames.pure

theorem placeStop (s : StopSpec) : OnOwn (AddTrips.placeStop s) := by
  refine Blames.bind Step.OnOwn.target fun t => ?_
  cases t.stopIndex? s.id with
  | some existing =>
    cases s.location? with
    | none => exact Blames.pure
    | some c => exact Step.OnOwn.fail not_false
  | none =>
    cases s.location? with
    | none => exact Step.OnOwn.fail not_false
    | some c => exact Step.OnOwn.edit (TransitLayer.blames_addStop _)

theorem addTrips (m : AddTrips) : OnOwn m.apply := by
  refine Blames.bind (Blames.mapM fun s _ => placeStop s) fun stops => ?_
  refine Blames.bind (Step.OnOwn.edit (TransitLayer.blames_addRoute _)) fun route => ?_
  have htrips := YieldsOwn.trips m
  cases hx : m.trips with
  | error e =>
    rw [hx] at htrips
    exact Step.OnOwn.fail htrips
  | ok trips =>
    exact Blames.bind (Step.OnOwn.edit (TransitLayer.blames_addPattern _)) fun _ => Blames.pure

/-- A step on a timetable that nobody else holds. -/
theorem onTransit {α : Type} {step : Step TransitLayer α} (h : OnOwn step) :
    Ensures (fun w : Worksite Network => w.target.transit.shared = false) (Step.onTransit step)
      (fun _ _ => True) fun f _ => ¬f.cause.OfSharing := by
  intro w hw
  have hstep := h ⟨w.target.transit.content, w.diagnostics⟩ trivial
  unfold Step.onTransit
  rw [hw]
  simp only [Bool.false_eq_true, if_false]
  cases hx : step ⟨w.target.transit.content, w.diagnostics⟩ with
  | ok a t => trivial
  | error f t =>
    rw [hx] at hstep
    exact hstep

end Step.OnOwn

namespace Change

/-- Changing a timetable that nobody else holds is not refused for sharing. -/
theorem apply_blames (c : Change) (hc : c.isStreet = false) :
    Ensures (fun w => w.target.transit.shared = false) c.apply (fun _ _ => True)
      fun f _ => ¬f.cause.OfSharing := by
  cases c with
  | modifyStreets m | removeStreets m | addStreets m => cases hc
  | removeTrips m => exact Step.OnOwn.onTransit (Step.OnOwn.removeTrips m)
  | removeStops m => exact Step.OnOwn.onTransit (Step.OnOwn.removeStops m)
  | adjustSpeed m => exact Step.OnOwn.onTransit (Step.OnOwn.adjustSpeed m)
  | adjustDwellTime m =>
    exact Step.OnOwn.onTransit (Step.OnOwn.revisePatterns (YieldsOwn.redwell m) m.foundRoutes)
  | addTrips m => exact Step.OnOwn.onTransit (Step.OnOwn.addTrips m)

end Change

/-! ## Resolving -/

/-- None of the remarks is the refusal of a part that somebody else holds. -/
def NoneOfSharing (rs : List Remark) : Prop := ∀ r ∈ rs, ¬r.OfSharing

namespace NoneOfSharing

variable {rs ss : List Remark} {r : Remark}

@[simp] theorem nil : NoneOfSharing [] := List.forall_mem_nil _

@[simp] theorem cons_iff : NoneOfSharing (r :: rs) ↔ ¬r.OfSharing ∧ NoneOfSharing rs :=
  List.forall_mem_cons

@[simp] theorem append_iff : NoneOfSharing (rs ++ ss) ↔ NoneOfSharing rs ∧ NoneOfSharing ss :=
  List.forall_mem_append

@[simp] theorem map_iff {α : Type} {f : α → Remark} {xs : List α} :
    NoneOfSharing (xs.map f) ↔ ∀ a ∈ xs, ¬(f a).OfSharing :=
  List.forall_mem_map

@[simp] theorem ite_iff {c : Prop} [Decidable c] :
    NoneOfSharing (if c then rs else ss) ↔ (c → NoneOfSharing rs) ∧ (¬c → NoneOfSharing ss) := by
  by_cases hc : c <;> simp [hc]

theorem checkRevision (t : TransitLayer) (routes : List RouteIndex)
    {f : List StopIndex → Trip → Except NetworkError Trip} (hf : ∀ stops p, YieldsOwn (f stops p)) :
    NoneOfSharing (t.checkRevision routes f) := by
  have htried : YieldsOwn ((t.patterns.filter (·.route ∈ routes)).mapM (Pattern.revise f)) :=
    YieldsOwn.mapM fun p => YieldsOwn.revise hf p
  unfold TransitLayer.checkRevision
  cases hx : (t.patterns.filter (·.route ∈ routes)).mapM (Pattern.revise f) with
  | ok ps => exact nil
  | error e =>
    rw [hx] at htried
    exact cons_iff.2 ⟨htried, nil⟩

theorem faults_modifyStreets (m : ModifyStreets) : NoneOfSharing m.faults := by
  unfold ModifyStreets.faults
  cases m.speedFactor <;> cases m.permissions <;> simp [Remark.OfSharing]

theorem faults_adjustDwellTime (m : AdjustDwellTime) : NoneOfSharing m.faults := by
  unfold AdjustDwellTime.faults
  cases m.dwell <;> cases m.scale <;> simp [Remark.OfSharing]

theorem snap (street : StreetLayer) (radius : Float) (which : StreetEnd) (p : Float × Float) :
    NoneOfSharing (AddStreets.snap street radius which p).2 := by
  unfold AddStreets.snap
  cases street.nearestVertex? (AddStreets.place p) radius <;> simp [Remark.OfSharing]

theorem stopProblems (t : TransitLayer) (fresh : List String) (specs : List StopSpec) :
    NoneOfSharing (AddTrips.stopProblems t fresh specs) := by
  induction specs generalizing fresh with
  | nil => exact nil
  | cons s specs ih =>
    unfold AddTrips.stopProblems
    cases s.latitude <;> cases s.longitude <;> simp [ih, Remark.OfSharing]

theorem problems (m : AddTrips) (t : TransitLayer) : NoneOfSharing (m.problems t) := by
  have htrips : NoneOfSharing m.tripProblems := by
    unfold AddTrips.tripProblems
    have hyields := YieldsOwn.trips m
    cases hx : m.trips with
    | ok trips => simp
    | error e =>
      rw [hx] at hyields
      exact ite_iff.2 ⟨fun _ => cons_iff.2 ⟨hyields, nil⟩, fun _ => nil⟩
  simp [AddTrips.problems, AddTrips.countProblems, htrips, stopProblems t [] m.stops,
    Remark.OfSharing]

end NoneOfSharing

/-- No problem that resolving reports is the refusal of a part that somebody else holds. -/
theorem Change.resolve_blames (c : Change) (n : Network) : NoneOfSharing (c.resolve n).2 := by
  cases c with
  | modifyStreets m =>
    unfold resolve ModifyStreets.resolve
    by_cases hfaults : m.faults.isEmpty = true
    · simp [hfaults, Remark.OfSharing]
    · simpa [hfaults] using NoneOfSharing.faults_modifyStreets m
  | removeStreets m =>
    unfold resolve RemoveStreets.resolve
    by_cases hvalid : m.envelope.isValid = true <;> simp [hvalid, Remark.OfSharing]
  | addStreets m =>
    unfold resolve AddStreets.resolve
    cases hfirst : m.coordinates.head? <;> cases hlast : m.coordinates.getLast? <;>
      simp [hfirst, hlast, NoneOfSharing.snap, Remark.OfSharing]
  | removeTrips m =>
    simp [resolve, RemoveTrips.resolve, TransitLayer.lookUpRoutes, lookUp, Remark.OfSharing]
  | removeStops m =>
    simp [resolve, RemoveStops.resolve, TransitLayer.lookUpRoutes, TransitLayer.lookUpStops, lookUp,
      Remark.OfSharing]
  | adjustSpeed m =>
    refine NoneOfSharing.ite_iff.2 ⟨fun _ => ?_, fun _ => ?_⟩
    · exact NoneOfSharing.checkRevision _ _ (YieldsOwn.rescale _)
    · simp [Remark.OfSharing]
  | adjustDwellTime m =>
    refine NoneOfSharing.ite_iff.2 ⟨fun _ => ?_, fun _ => ?_⟩
    · exact NoneOfSharing.checkRevision _ _ (YieldsOwn.redwell _)
    · simp [NoneOfSharing.faults_adjustDwellTime, Remark.OfSharing]
  | addTrips m => exact NoneOfSharing.problems m _

end Multimodal
