import Multimodal.Proofs.Street.Calls
import Multimodal.Proofs.Street.Degrees

/-! # Counters that are checked

The degrees are counters of 32 bits.  A program that checks its arithmetic stops where one of them would
wrap around: such a call does not return, and no layer comes after it.  A call that returns leaves the
layer that wrapping counters leave.

* `CounterStep.wrap`, `CounterStep.check?`: one step of a counter, unchecked and checked.
* `StreetCall.counterSteps`, `StreetCall.Returns`: the steps of a call, and whether they go through.
* `liveDegree_perform`: these are all the steps that a call makes.
* `StreetLayer.Fits`, `returns_iff_fits`: a call returns exactly if 32 bits hold the number of edge
  ends at every vertex afterwards.
* `StreetLayer.Reached`: the layers that calls lead to that return; `Reached.after`: all calls do while
  there are fewer than `2^31` edges.
-/

namespace Multimodal

/-- A counter for a new vertex, or one edge end more or less at a vertex. -/
inductive CounterStep
  | new
  | up (v : VertexId)
  | down (v : VertexId)

namespace CounterStep

/-- The counters after the step, where they wrap around. -/
def wrap (degrees : Array UInt32) : CounterStep → Array UInt32
  | new => degrees.push 0
  | up v => degrees.modify v (· + 1)
  | down v => degrees.modify v (· - 1)

/-- Whether the step finds its counter and leaves it within 32 bits. -/
def fits (degrees : Array UInt32) : CounterStep → Bool
  | new => true
  | up v => degrees[v]?.any (·.toNat + 1 < UInt32.size)
  | down v => degrees[v]?.any (0 < ·.toNat)

/-- The counters after the step; none if that would wrap a counter around. -/
def check? (degrees : Array UInt32) (step : CounterStep) : Option (Array UInt32) :=
  if step.fits degrees then some (step.wrap degrees) else none

/-- Steps that go through when they are checked do what they do unchecked. -/
theorem eq_wrap_of_check {steps : List CounterStep} {degrees after : Array UInt32}
    (h : steps.foldlM check? degrees = some after) : after = steps.foldl wrap degrees := by
  induction steps generalizing degrees with
  | nil => exact (Option.some.inj h).symm
  | cons step steps ih =>
    rw [List.foldlM_cons] at h
    obtain ⟨next, hnext, hrest⟩ := Option.bind_eq_some_iff.1 h
    unfold check? at hnext
    split at hnext
    · cases hnext
      exact ih hrest
    · cases hnext

theorem getD_wrap_up {degrees : Array UInt32} {a : VertexId} (ha : a < degrees.size)
    (hfits : (up a).fits degrees) (v : VertexId) :
    ((((up a).wrap degrees)[v]?).getD 0).toNat =
      ((degrees[v]?).getD 0).toNat + if a = v then 1 else 0 := by
  have hroom : degrees[a].toNat + 1 < UInt32.size := by
    simpa [fits, Array.getElem?_eq_getElem ha] using hfits
  show (((degrees.modify a (· + 1))[v]?).getD 0).toNat = _
  rw [StreetLayer.getD_modify ha]
  by_cases hav : a = v
  · subst hav
    rw [if_pos rfl, if_pos rfl, Array.getElem?_eq_getElem ha, Option.getD_some, UInt32.toNat_add]
    exact Nat.mod_eq_of_lt hroom
  · rw [if_neg hav, if_neg hav, Nat.add_zero]

theorem getD_wrap_down {degrees : Array UInt32} {a : VertexId} (ha : a < degrees.size)
    (hfits : (down a).fits degrees) (v : VertexId) :
    ((((down a).wrap degrees)[v]?).getD 0).toNat + (if a = v then 1 else 0) =
      ((degrees[v]?).getD 0).toNat := by
  have hpos : 0 < degrees[a].toNat := by
    simpa [fits, Array.getElem?_eq_getElem ha] using hfits
  have hone : 1 ≤ degrees[a] := UInt32.le_iff_toNat_le.2 (Nat.succ_le_of_lt hpos)
  show (((degrees.modify a (· - 1))[v]?).getD 0).toNat + _ = _
  rw [StreetLayer.getD_modify ha]
  by_cases hav : a = v
  · subst hav
    rw [if_pos rfl, if_pos rfl, Array.getElem?_eq_getElem ha, Option.getD_some,
      UInt32.toNat_sub_of_le _ _ hone]
    exact Nat.sub_add_cancel hpos
  · rw [if_neg hav, if_neg hav, Nat.add_zero]

/-- Counting up goes through exactly if all the counters stay within 32 bits in the end. -/
theorem isSome_check_up {vs : List VertexId} {degrees : Array UInt32}
    (hvs : ∀ v ∈ vs, v < degrees.size) :
    ((vs.map up).foldlM check? degrees).isSome ↔
      ∀ v, ((degrees[v]?).getD 0).toNat + vs.count v < UInt32.size := by
  induction vs generalizing degrees with
  | nil => simp [UInt32.toNat_lt_size]
  | cons a vs ih =>
    obtain ⟨ha, hvs⟩ := List.forall_mem_cons.1 hvs
    rw [List.map_cons, List.foldlM_cons, check?]
    by_cases hfits : (up a).fits degrees
    · rw [if_pos hfits, Option.bind_eq_bind, Option.bind_some,
        ih fun v hv => by simpa [wrap] using hvs v hv]
      refine forall_congr' fun v => ?_
      rw [getD_wrap_up ha hfits, List.count_cons]
      simp only [beq_iff_eq]
      omega
    · rw [if_neg hfits]
      refine iff_of_false (by simp) fun hroom => hfits ?_
      have ha' := hroom a
      rw [Array.getElem?_eq_getElem ha, Option.getD_some, List.count_cons_self] at ha'
      simp only [fits, Array.getElem?_eq_getElem ha, Option.any_some, decide_eq_true_eq]
      omega

/-- Counting down goes through if no counter is lowered below zero in the end. -/
theorem isSome_check_down {vs : List VertexId} {degrees : Array UInt32}
    (hvs : ∀ v ∈ vs, v < degrees.size)
    (hleft : ∀ v, vs.count v ≤ ((degrees[v]?).getD 0).toNat) :
    ((vs.map down).foldlM check? degrees).isSome := by
  induction vs generalizing degrees with
  | nil => rfl
  | cons a vs ih =>
    obtain ⟨ha, hvs⟩ := List.forall_mem_cons.1 hvs
    have hfits : (down a).fits degrees := by
      have ha' := hleft a
      rw [Array.getElem?_eq_getElem ha, Option.getD_some, List.count_cons_self] at ha'
      simp only [fits, Array.getElem?_eq_getElem ha, Option.any_some, decide_eq_true_eq]
      omega
    rw [List.map_cons, List.foldlM_cons, check?, if_pos hfits]
    refine ih (fun v hv => by simpa [wrap] using hvs v hv) fun v => ?_
    have hv := hleft v
    have hlowered := getD_wrap_down ha hfits v
    rw [List.count_cons] at hv
    simp only [beq_iff_eq] at hv
    omega

end CounterStep

/-! ## Calls -/

namespace StreetCall

/-- The steps of the counters in what the call makes of a layer. -/
def outcomeSteps (call : StreetCall) (s : StreetLayer) : List CounterStep :=
  match call with
  | addVertex _ => [.new]
  | addEdge a b _ _ => [a, b].map .up
  | addStreet a b _ _ => [a, b, b, a].map .up
  | removeEdge e => (s.edge? e).elim [] fun edge => [edge.origin, edge.target].map .down
  | setSpeed _ _ | setPermissions _ _ | buildEdgeLists => []

/-- The steps of the counters in a call; a refused call makes none. -/
def counterSteps (call : StreetCall) (s : StreetLayer) : List CounterStep :=
  if (call.obstacle? s).isSome then [] else call.outcomeSteps s

/-- The call returns where the counters are checked: none of its steps wraps a counter around, and
they end with the counters of the layer after the call. -/
def Returns (call : StreetCall) (s : StreetLayer) : Prop :=
  (call.counterSteps s).foldlM CounterStep.check? s.liveDegree = some (call.perform s).liveDegree

variable {call : StreetCall} {s : StreetLayer}

theorem perform_of_obstacle {e : NetworkError} (h : call.obstacle? s = some e) :
    call.perform s = s := by
  unfold perform Edit.attempt
  rw [edit_apply, h]

theorem perform_of_none (h : call.obstacle? s = none) : call.perform s = call.outcome s := by
  unfold perform Edit.attempt
  rw [edit_apply, h]

theorem counterSteps_of_obstacle {e : NetworkError} (h : call.obstacle? s = some e) :
    call.counterSteps s = [] := by
  unfold counterSteps
  rw [h]
  rfl

theorem counterSteps_of_none (h : call.obstacle? s = none) :
    call.counterSteps s = call.outcomeSteps s := by
  unfold counterSteps
  rw [h]
  rfl

/-- These are all the steps that a call makes. -/
theorem liveDegree_perform (call : StreetCall) (s : StreetLayer) :
    (call.perform s).liveDegree = (call.counterSteps s).foldl CounterStep.wrap s.liveDegree := by
  cases hobstacle : call.obstacle? s with
  | some e =>
    rw [perform_of_obstacle hobstacle, counterSteps_of_obstacle hobstacle]
    rfl
  | none =>
    rw [perform_of_none hobstacle, counterSteps_of_none hobstacle]
    cases call with
    | removeEdge e =>
      simp only [outcome, outcomeSteps]
      cases s.edge? e <;> rfl
    | _ => rfl

theorem returns_iff_isSome : call.Returns s ↔
    ((call.counterSteps s).foldlM CounterStep.check? s.liveDegree).isSome := by
  unfold Returns
  constructor
  · intro h
    rw [h]
    rfl
  · intro h
    obtain ⟨after, hafter⟩ := Option.isSome_iff_exists.1 h
    rw [hafter, liveDegree_perform, CounterStep.eq_wrap_of_check hafter]

end StreetCall

/-! ## Layers -/

namespace StreetLayer

/-- At every vertex 32 bits hold the number of edge ends that are left. -/
def Fits (s : StreetLayer) : Prop := ∀ v, s.endsAt v < UInt32.size

variable {s : StreetLayer}

/-- As an edge has two ends, fewer than `2^31` edges fit. -/
theorem fits_of_size_lt (h : s.edges.size < 2 ^ 31) : s.Fits := by
  intro v
  have hkept : s.keptEdges.length ≤ s.edges.size := List.length_filter_le _ _
  have hfrom : s.keptEdges.countP (·.origin = v) ≤ s.keptEdges.length := List.countP_le_length
  have hto : s.keptEdges.countP (·.target = v) ≤ s.keptEdges.length := List.countP_le_length
  have hsize : UInt32.size = 2 * 2 ^ 31 := rfl
  unfold endsAt edgeEnds
  omega

theorem Counted.toNat_degree (h : s.Counted) (hfits : s.Fits) (v : VertexId) :
    (s.degree v).toNat = s.endsAt v := by
  rw [h.degree, UInt32.toNat_ofNat']
  exact Nat.mod_eq_of_lt (hfits v)

theorem edgeEnds_eq_count (edge : StreetEdge) (v : VertexId) :
    edgeEnds [edge] v = [edge.origin, edge.target].count v := by
  rw [edgeEnds_singleton]
  simp only [List.count_cons, List.count_nil, beq_iff_eq]
  omega

/-- A call that counts up some edge ends returns exactly if the layer with these fits. -/
theorem returns_iff_fits_of_up {call : StreetCall} (vs : List VertexId) (h : s.Counted)
    (hfits : s.Fits) (hsteps : call.counterSteps s = vs.map .up)
    (hvs : ∀ v ∈ vs, v < s.vertices.size)
    (hends : ∀ v, (call.perform s).endsAt v = s.endsAt v + vs.count v) :
    call.Returns s ↔ (call.perform s).Fits := by
  rw [StreetCall.returns_iff_isSome, hsteps,
    CounterStep.isSome_check_up fun v hv => (hvs v hv).trans_eq h.aligned.symm]
  refine forall_congr' fun v => ?_
  rw [hends]
  exact iff_of_eq (congrArg (· + vs.count v < UInt32.size) (h.toNat_degree hfits v))

/-- A removal finds both of its counters above zero, also where the edge is a loop. -/
theorem returns_removeEdge (h : s.Counted) (hfits : s.Fits) (e : EdgeId) :
    (StreetCall.removeEdge e).Returns s := by
  rw [StreetCall.returns_iff_isSome]
  cases hedge : s.edge? e with
  | none => simp [StreetCall.counterSteps, StreetCall.obstacle?, hedge]
  | some edge =>
    have hsteps : (StreetCall.removeEdge e).counterSteps s =
        [edge.origin, edge.target].map .down := by
      simp [StreetCall.counterSteps, StreetCall.outcomeSteps, StreetCall.obstacle?, hedge]
    obtain ⟨horigin, htarget⟩ := h.lt_of_end hedge
    rw [hsteps]
    refine CounterStep.isSome_check_down (by simp [horigin, htarget]) fun v => ?_
    have hcounter : ((s.liveDegree[v]?).getD 0).toNat = s.endsAt v := h.toNat_degree hfits v
    rw [hcounter, ← edgeEnds_eq_count, ← endsAt_withoutEdge hedge v]
    exact Nat.le_add_left _ _

theorem Fits.perform_removeEdge (hfits : s.Fits) (e : EdgeId) :
    ((StreetCall.removeEdge e).perform s).Fits := by
  intro v
  cases hedge : s.edge? e with
  | none =>
    have hobstacle : (StreetCall.removeEdge e).obstacle? s = some (.edgeNotFound e) := by
      simp [StreetCall.obstacle?, hedge]
    rw [StreetCall.perform_of_obstacle hobstacle]
    exact hfits v
  | some edge =>
    have hobstacle : (StreetCall.removeEdge e).obstacle? s = none := by
      simp [StreetCall.obstacle?, hedge]
    have hperform : (StreetCall.removeEdge e).perform s = s.withoutEdge e edge := by
      rw [StreetCall.perform_of_none hobstacle]
      simp only [StreetCall.outcome, hedge, Option.elim_some]
    have hleft := endsAt_withoutEdge hedge v
    have hv := hfits v
    rw [hperform]
    omega

theorem endsAt_withEdge_joining (s : StreetLayer) (vertices : Array Coordinate)
    (speed : UInt16) (permissions : Permissions) (a b v : VertexId) :
    (s.withEdge (joining vertices speed permissions a b)).endsAt v = s.endsAt v + [a, b].count v :=
  (endsAt_withEdge rfl v).trans (congrArg (s.endsAt v + ·) (edgeEnds_eq_count _ v))

/-- Where the counters count the edge ends, a call returns exactly if those of the layer after it
fit. -/
theorem returns_iff_fits (h : s.Counted) (hfits : s.Fits) (call : StreetCall) :
    call.Returns s ↔ (call.perform s).Fits := by
  cases hobstacle : call.obstacle? s with
  | some e =>
    have hsteps := StreetCall.counterSteps_of_obstacle hobstacle
    refine returns_iff_fits_of_up [] h hfits hsteps (by simp) fun v => ?_
    rw [StreetCall.perform_of_obstacle hobstacle]
    rfl
  | none =>
    have hperform := StreetCall.perform_of_none hobstacle
    have hsteps := StreetCall.counterSteps_of_none hobstacle
    cases call with
    | addVertex c =>
      refine iff_of_true (StreetCall.returns_iff_isSome.2 (by rw [hsteps]; rfl)) ?_
      rw [hperform]
      exact hfits
    | addEdge a b speed permissions =>
      have hends : a < s.vertices.size ∧ b < s.vertices.size := by
        simpa [StreetCall.obstacle?] using hobstacle
      refine returns_iff_fits_of_up [a, b] h hfits hsteps (by simpa using hends) fun v => ?_
      rw [hperform]
      exact endsAt_withEdge_joining s s.vertices speed permissions a b v
    | addStreet a b speed permissions =>
      have hends : a < s.vertices.size ∧ b < s.vertices.size := by
        simpa [StreetCall.obstacle?] using hobstacle
      refine returns_iff_fits_of_up [a, b, b, a] h hfits hsteps (by simp [hends]) fun v => ?_
      let half := s.withEdge (joining s.vertices speed permissions a b)
      have hthere := s.endsAt_withEdge_joining s.vertices speed permissions a b v
      have hback := half.endsAt_withEdge_joining s.vertices speed permissions b a v
      rw [hthere, Nat.add_assoc, ← List.count_append] at hback
      rw [hperform]
      exact hback
    | removeEdge e => exact iff_of_true (returns_removeEdge h hfits e) (hfits.perform_removeEdge e)
    | setSpeed e speed | setPermissions e permissions =>
      obtain ⟨edge, hedge⟩ : ∃ edge, s.edge? e = some edge := by
        simpa [StreetCall.obstacle?, Option.isNone_iff_eq_none, Option.ne_none_iff_exists'] using
          hobstacle
      refine returns_iff_fits_of_up [] h hfits hsteps (by simp) fun v => ?_
      rw [hperform]
      exact endsAt_withAltered hedge ⟨rfl, rfl, rfl, rfl⟩ v
    | buildEdgeLists =>
      refine returns_iff_fits_of_up [] h hfits hsteps (by simp) fun v => ?_
      rw [hperform]
      rfl

/-! ## Layers that are reached -/

/-- The layers that come from the empty one by calls that return where the counters are checked. -/
abbrev Reached : StreetLayer → Prop := ArisesBy StreetCall.Returns

theorem counted_of_arises (h : s.Arises) : s.Counted :=
  h.invariant stable_counted (fun _ hs => hs.withEdgeLists) (fun _ hs => hs.forgetChanges)
    counted_empty

theorem fits_of_reached (h : s.Reached) : s.Fits := by
  have hboth : s.Counted ∧ s.Fits := by
    refine h.induct (S := fun s => s.Counted ∧ s.Fits) ⟨counted_empty, ?_⟩ ?_ ?_ ?_
    · exact fun _ => Nat.two_pow_pos 32
    · rintro s call ⟨hcounted, hfits⟩ hreturns
      have hafter := stable_counted.perform (fun _ hs => hs.withEdgeLists) call hcounted
      exact ⟨hafter, (returns_iff_fits hcounted hfits call).1 hreturns⟩
    · exact fun s hs => ⟨hs.1.withEdgeLists, hs.2⟩
    · exact fun s hs => ⟨hs.1.forgetChanges, hs.2⟩
  exact hboth.2

/-- No change of a layer takes an edge out of it. -/
theorem stable_size_edges (n : Nat) : Stable fun s => n ≤ s.edges.size where
  vertex _ _ h := h
  edge s edge h _ _ _ := by
    show n ≤ (s.edges.push edge).size
    rw [Array.size_push]
    exact Nat.le_succ_of_le h
  removal s e _ h _ := by
    show n ≤ (s.edges.modify e _).size
    rwa [Array.size_modify]
  alteration s e _ f h _ _ := by
    show n ≤ (s.edges.modify e f).size
    rwa [Array.size_modify]

/-- Calls that leave fewer than `2^31` edges all return. -/
theorem Reached.after (hs : s.Reached) (calls : List StreetCall)
    (hfew : (s.after calls).edges.size < 2 ^ 31) : (s.after calls).Reached := by
  induction calls generalizing s with
  | nil => exact hs
  | cons call calls ih =>
    have hsize : (call.perform s).edges.size ≤ (s.after (call :: calls)).edges.size :=
      (stable_size_edges _).after (fun _ h => h) calls (Nat.le_refl _)
    have hfits := fits_of_size_lt (Nat.lt_of_le_of_lt hsize hfew)
    have hreturns : call.Returns s :=
      (returns_iff_fits (counted_of_arises hs.arises) (fits_of_reached hs) call).2 hfits
    exact ih (hs.call call hreturns) hfew

end StreetLayer

end Multimodal
