import Multimodal.Proofs.Transit.WellFormed
import Multimodal.Sample

/-! # Sequences of calls on a timetable

A timetable changes only through calls.  A call is granted or refused, and what a refused one leaves
behind counts too.

* `TransitCall`, `TransitCall.perform`: one call and the timetable after it.
* `TransitCall.edit_apply`: what any call can do.
* `refused_leaves`: a refused call changes nothing, except that asking for a pattern that does not
  exist leaves the membership lists marked as stale.
* `TransitLayer.Arises`: the timetables that calls lead to from the empty one.
-/

namespace Multimodal

/-- One call on a timetable.  A pattern is edited in any way, and patterns are kept by a test that may
remember something of the patterns before. -/
inductive TransitCall
  | setFeed (name : String) (checksum : UInt64)
  | addStop (stop : Stop)
  | addRoute (route : Route)
  | addPattern (pattern : Pattern)
  | modifyPattern (i : PatternIndex) (f : Pattern → Pattern)
  | retainPatterns {σ : Type} (keep : σ → Pattern → Bool × σ) (s : σ)
  | buildMembership

namespace TransitCall

def edit : TransitCall → Edit TransitLayer Unit
  | setFeed name checksum => modify (·.withFeed name checksum)
  | addStop stop => do let _ ← TransitLayer.addStop stop
  | addRoute route => do let _ ← TransitLayer.addRoute route
  | addPattern pattern => do let _ ← TransitLayer.addPattern pattern
  | modifyPattern i f => TransitLayer.modifyPattern i f
  | retainPatterns keep s => modify (·.retainPatternsFrom keep s)
  | buildMembership => modify (·.withMembership)

/-- The timetable after the call, whether it was granted or refused. -/
def perform (call : TransitCall) (t : TransitLayer) : TransitLayer := (call.edit.attempt t).2

/-! ## What a call can do -/

/-- What stands in the way of the call. -/
def obstacle? (call : TransitCall) (t : TransitLayer) : Option NetworkError :=
  match call with
  | addStop stop => if (t.stopIndex? stop.id).isSome then some (.duplicateStop stop.id) else none
  | addRoute route =>
    if (t.routeIndex? route.id).isSome then some (.duplicateRoute route.id) else none
  | addPattern pattern =>
    match t.checkPattern pattern with
    | .error e => some e
    | .ok () => none
  | modifyPattern i _ => if i < t.patterns.length then none else some (.patternNotFound i)
  | setFeed .. | retainPatterns .. | buildMembership => none

/-- What the call makes of the timetable if nothing stands in its way. -/
def outcome (call : TransitCall) (t : TransitLayer) : TransitLayer :=
  match call with
  | setFeed name checksum => t.withFeed name checksum
  | addStop stop => t.withStop stop
  | addRoute route => t.withRoute route
  | addPattern pattern => t.withPatterns (t.patterns ++ [pattern])
  | modifyPattern i f => t.withPatterns (t.patterns.modify i f)
  | retainPatterns keep s => t.withPatterns (TransitLayer.retainFrom keep s t.patterns)
  | buildMembership => t.withMembership

/-- What the call leaves behind if it is refused. -/
def residue (call : TransitCall) (t : TransitLayer) : TransitLayer :=
  match call with
  | modifyPattern .. => t.withPatterns t.patterns
  | setFeed .. | addStop .. | addRoute .. | addPattern .. | retainPatterns .. | buildMembership => t

theorem modifyPattern_apply (t : TransitLayer) (i : PatternIndex) (f : Pattern → Pattern) :
    TransitLayer.modifyPattern i f t =
      if i < t.patterns.length then .ok ⟨⟩ (t.withPatterns (t.patterns.modify i f))
      else .error (.patternNotFound i) (t.withPatterns t.patterns) := by
  have hopen := TransitLayer.openPattern_apply t i
  unfold TransitLayer.modifyPattern
  split
  · rename_i hi
    rw [List.getElem?_eq_getElem hi] at hopen
    have hset : t.patterns.set i (f t.patterns[i]) = t.patterns.modify i f := by
      rw [List.modify_eq_set_getElem?, List.getElem?_eq_getElem hi]
      rfl
    rw [bind_of_ok hopen, ← hset]
    rfl
  · rename_i hi
    rw [List.getElem?_eq_none (Nat.not_lt.1 hi)] at hopen
    exact bind_of_error hopen

/-- A call is granted unless something stands in its way. -/
theorem edit_apply (call : TransitCall) (t : TransitLayer) :
    call.edit t =
      match call.obstacle? t with
      | some e => .error e (call.residue t)
      | none => .ok ⟨⟩ (call.outcome t) := by
  cases call with
  | setFeed name checksum => rfl
  | addStop stop =>
    have hadd := TransitLayer.addStop_apply t stop
    by_cases hid : (t.stopIndex? stop.id).isSome
    · rw [if_pos hid] at hadd
      simp only [obstacle?, if_pos hid]
      exact bind_of_error hadd
    · rw [if_neg hid] at hadd
      simp only [obstacle?, if_neg hid]
      exact bind_of_ok hadd
  | addRoute route =>
    have hadd := TransitLayer.addRoute_apply t route
    by_cases hid : (t.routeIndex? route.id).isSome
    · rw [if_pos hid] at hadd
      simp only [obstacle?, if_pos hid]
      exact bind_of_error hadd
    · rw [if_neg hid] at hadd
      simp only [obstacle?, if_neg hid]
      exact bind_of_ok hadd
  | addPattern pattern =>
    have hadd := TransitLayer.addPattern_apply t pattern
    cases hcheck : t.checkPattern pattern with
    | error e =>
      rw [hcheck] at hadd
      simp only [obstacle?, hcheck]
      exact bind_of_error hadd
    | ok u =>
      rw [hcheck] at hadd
      simp only [obstacle?, hcheck]
      exact bind_of_ok hadd
  | modifyPattern i f =>
    have hmodify := modifyPattern_apply t i f
    by_cases hi : i < t.patterns.length
    · rw [if_pos hi] at hmodify
      simp only [obstacle?, if_pos hi]
      exact hmodify
    · rw [if_neg hi] at hmodify
      simp only [obstacle?, if_neg hi]
      exact hmodify
  | retainPatterns keep s => rfl
  | buildMembership => rfl

theorem perform_eq (call : TransitCall) (t : TransitLayer) :
    call.perform t = if (call.obstacle? t).isSome then call.residue t else call.outcome t := by
  unfold perform Edit.attempt
  rw [call.edit_apply t]
  cases call.obstacle? t with
  | none => rfl
  | some e => rfl

/-! ## Refused calls -/

/-- A stop, a route or a pattern that is refused leaves the timetable as it was.  A refused edit, which
is one of a pattern that does not exist, marks the membership lists as stale and changes nothing else;
no other call is refused. -/
theorem refused_leaves {call : TransitCall} {t t' : TransitLayer} {e : NetworkError}
    (h : call.edit t = .error e t') :
    (t' = t ∧ ((∃ stop, call = .addStop stop) ∨ (∃ route, call = .addRoute route) ∨
      ∃ pattern, call = .addPattern pattern)) ∨
    ∃ i f, call = .modifyPattern i f ∧ t.patterns.length ≤ i ∧ e = .patternNotFound i ∧
      t' = { t with membershipStale := true } := by
  rw [call.edit_apply t] at h
  cases hobstacle : call.obstacle? t with
  | none =>
    rw [hobstacle] at h
    cases h
  | some problem =>
    rw [hobstacle] at h
    cases h
    cases call with
    | addStop stop => exact .inl ⟨rfl, .inl ⟨stop, rfl⟩⟩
    | addRoute route => exact .inl ⟨rfl, .inr (.inl ⟨route, rfl⟩)⟩
    | addPattern pattern => exact .inl ⟨rfl, .inr (.inr ⟨pattern, rfl⟩)⟩
    | modifyPattern i f =>
      refine .inr ⟨i, f, rfl, ?_⟩
      simp only [obstacle?] at hobstacle
      split at hobstacle
      · cases hobstacle
      · rename_i hi
        cases hobstacle
        exact ⟨Nat.not_lt.1 hi, rfl, rfl⟩
    | setFeed name checksum => cases hobstacle
    | retainPatterns keep s => cases hobstacle
    | buildMembership => cases hobstacle

/-- The two lines have two patterns, and their membership lists have just been built; asking for an
eighth pattern marks the lists as stale. -/
theorem refused_edit_of_twoLines :
    let t := Sample.twoLines.withMembership
    t.patterns.length = 2 ∧ t.membershipStale = false ∧
      ∃ t', (modifyPattern 7 id).edit t = .error (.patternNotFound 7) t' ∧
        t'.membershipStale = true ∧
        ((t' = t ∧ ((∃ stop, modifyPattern 7 id = .addStop stop) ∨
            (∃ route, modifyPattern 7 id = .addRoute route) ∨
            ∃ pattern, modifyPattern 7 id = .addPattern pattern)) ∨
          ∃ i f, modifyPattern 7 id = .modifyPattern i f ∧ t.patterns.length ≤ i ∧
            NetworkError.patternNotFound 7 = .patternNotFound i ∧
            t' = { t with membershipStale := true }) := by
  intro t
  have htwo : t.patterns.length = 2 := by decide +kernel
  have hrefused : (modifyPattern 7 id).edit t =
      .error (.patternNotFound 7) (t.withPatterns t.patterns) := by
    show TransitLayer.modifyPattern 7 id t = _
    rw [modifyPattern_apply, htwo]
    rfl
  exact ⟨htwo, rfl, _, hrefused, rfl, refused_leaves hrefused⟩

end TransitCall

/-! ## Sequences of calls -/

/-- An edit leaves the pattern with a route and stops that exist. -/
def TransitCall.Sound (t : TransitLayer) : TransitCall → Prop
  | modifyPattern i f => ∀ p, t.patterns[i]? = some p → (f p).InRange t
  | setFeed .. | addStop .. | addRoute .. | addPattern .. | retainPatterns .. | buildMembership =>
    True

namespace TransitLayer

/-- The timetables that calls lead to from the empty one, refused calls among them. -/
inductive Arises : TransitLayer → Prop
  | empty : Arises {}
  | call {t : TransitLayer} (h : Arises t) (call : TransitCall) (hsound : call.Sound t) :
      Arises (call.perform t)

def after (t : TransitLayer) (calls : List TransitCall) : TransitLayer :=
  calls.foldl (fun t call => call.perform t) t

theorem Anchored.of_patterns {t t' : TransitLayer} (h : t.Anchored)
    (hroutes : t.routes.size ≤ t'.routes.size) (hstops : t.stops.size ≤ t'.stops.size)
    (hpatterns : ∀ p ∈ t'.patterns, p ∈ t.patterns ∨ p.InRange t) : t'.Anchored := by
  intro p hp
  have hrange : p.InRange t := (hpatterns p hp).elim (h p) id
  exact ⟨Nat.lt_of_lt_of_le hrange.route hroutes,
    fun s hs => Nat.lt_of_lt_of_le (hrange.stops s hs) hstops⟩

/-- No call makes a pattern refer to a record that does not exist. -/
theorem Anchored.perform {t : TransitLayer} (h : t.Anchored) {call : TransitCall}
    (hsound : call.Sound t) : (call.perform t).Anchored := by
  have hsame : ∀ t' : TransitLayer, t.routes.size ≤ t'.routes.size →
      t.stops.size ≤ t'.stops.size → t'.patterns = t.patterns → t'.Anchored :=
    fun t' hroutes hstops heq => h.of_patterns hroutes hstops fun p hp => .inl (heq ▸ hp)
  rw [call.perform_eq t]
  split
  · cases call <;> exact hsame _ (Nat.le_refl _) (Nat.le_refl _) rfl
  · rename_i hfree
    cases call with
    | setFeed name checksum => exact hsame _ (Nat.le_refl _) (Nat.le_refl _) rfl
    | addStop stop =>
      exact hsame _ (Nat.le_refl _) (by simp [TransitCall.outcome, withStop]) rfl
    | addRoute route =>
      exact hsame _ (by simp [TransitCall.outcome, withRoute]) (Nat.le_refl _) rfl
    | addPattern pattern =>
      refine h.of_patterns (Nat.le_refl _) (Nat.le_refl _) fun p hp => ?_
      have hcheck := t.checkPattern_yields pattern
      rcases List.mem_append.1 hp with hold | hnew
      · exact .inl hold
      · rw [List.mem_singleton.1 hnew]
        cases hchecked : t.checkPattern pattern with
        | error e => simp [TransitCall.obstacle?, hchecked] at hfree
        | ok u =>
          rw [hchecked] at hcheck
          exact .inr (Pattern.Accepted.inRange hcheck)
    | modifyPattern i f =>
      refine h.of_patterns (Nat.le_refl _) (Nat.le_refl _) fun p hp => ?_
      obtain ⟨k, hk⟩ := List.mem_iff_getElem?.1 hp
      have hget : (t.patterns.modify i f)[k]? = some p := hk
      rw [List.getElem?_modify] at hget
      obtain ⟨old, hold, rfl⟩ := Option.map_eq_some_iff.1 hget
      split
      · rename_i hik
        subst hik
        exact .inr (hsound old hold)
      · exact .inl (List.mem_of_getElem? hold)
    | retainPatterns keep s =>
      refine h.of_patterns (Nat.le_refl _) (Nat.le_refl _) fun p hp => ?_
      exact .inl ((retainFrom_sublist keep s t.patterns).subset hp)
    | buildMembership => exact hsame _ (Nat.le_refl _) (Nat.le_refl _) rfl

theorem anchored_of_arises {t : TransitLayer} (h : t.Arises) : t.Anchored := by
  induction h with
  | empty => exact fun _ hp => absurd hp List.not_mem_nil
  | call _ call hsound ih => exact ih.perform hsound

/-- An edit that keeps the route and adds no stop can be made at any time. -/
theorem Anchored.sound {t : TransitLayer} (h : t.Anchored) {f : Pattern → Pattern}
    (hroute : ∀ p, (f p).route = p.route) (hstops : ∀ p, (f p).stops ⊆ p.stops)
    (i : PatternIndex) : (TransitCall.modifyPattern i f).Sound t := by
  intro p hp
  have hrange := h p (List.mem_of_getElem? hp)
  exact ⟨hroute p ▸ hrange.route, fun s hs => hrange.stops s (hstops p hs)⟩

theorem Arises.after {t : TransitLayer} (h : t.Arises) {calls : List TransitCall}
    (hsound : ∀ t : TransitLayer, t.Anchored → calls.Forall (·.Sound t)) :
    (t.after calls).Arises := by
  induction calls generalizing t with
  | nil => exact h
  | cons call calls ih =>
    have hsplit := fun t ht => (List.forall_cons _ call calls).1 (hsound t ht)
    exact ih (h.call call (hsplit t (anchored_of_arises h)).1) fun t ht => (hsplit t ht).2

end TransitLayer

end Multimodal
