import Multimodal.Proofs.Street.Edits

/-! # Sequences of calls on a street layer

A street layer changes only through calls, and it comes into being as the empty one, as the layer of
a network that is built, or as a scoped copy.

* `StreetCall`, `StreetCall.perform`: one call; what a refused call leaves behind counts too.
* `StreetCall.edit_apply`, `all_or_nothing`: what any call can do, and that a refused one does nothing.
* `StreetLayer.after`: a layer after some calls.
* `StreetLayer.ArisesBy`, `StreetLayer.Arises`: the layers that calls, networks and copies lead to from
  the empty one, where only some calls are allowed or all of them.
* `Stable.after`, `Arises.invariant`: what no change of a layer breaks holds of all of these.
-/

namespace Multimodal

/-- One call on a street layer. -/
inductive StreetCall
  | addVertex (c : Coordinate)
  | addEdge (origin target : VertexId) (speed : UInt16) (permissions : Permissions)
  | addStreet (a b : VertexId) (speed : UInt16) (permissions : Permissions)
  | removeEdge (e : EdgeId)
  | setSpeed (e : EdgeId) (speed : UInt16)
  | setPermissions (e : EdgeId) (permissions : Permissions)
  | buildEdgeLists

namespace StreetCall

def edit : StreetCall → Edit StreetLayer Unit
  | addVertex c => do let _ ← StreetLayer.addVertex c
  | addEdge origin target speed permissions => do
    let _ ← StreetLayer.addEdge origin target speed permissions
  | addStreet a b speed permissions => do
    let _ ← StreetLayer.addStreet a b speed permissions
  | removeEdge e => StreetLayer.removeEdge e
  | setSpeed e speed => StreetLayer.setSpeed e speed
  | setPermissions e permissions => StreetLayer.setPermissions e permissions
  | buildEdgeLists => modify (·.withEdgeLists)

/-- The layer after the call, whether it was granted or refused. -/
def perform (call : StreetCall) (s : StreetLayer) : StreetLayer := (call.edit.attempt s).2

/-! ## What a call can do -/

/-- What stands in the way of the call: the first end that does not exist, or the edge that does not
exist or is removed. -/
def obstacle? (call : StreetCall) (s : StreetLayer) : Option NetworkError :=
  match call with
  | addEdge a b _ _ | addStreet a b _ _ =>
    ([a, b].find? (s.vertices.size ≤ ·)).map .vertexNotFound
  | removeEdge e | setSpeed e _ | setPermissions e _ =>
    if (s.edge? e).isNone then some (.edgeNotFound e) else none
  | addVertex _ | buildEdgeLists => none

/-- What the call makes of the layer if nothing stands in its way. -/
def outcome (call : StreetCall) (s : StreetLayer) : StreetLayer :=
  match call with
  | addVertex c => s.withVertex c
  | addEdge a b speed permissions =>
    s.withEdge (StreetLayer.joining s.vertices speed permissions a b)
  | addStreet a b speed permissions =>
    (StreetLayer.bothWays s.vertices speed permissions (a, b)).foldl StreetLayer.withEdge s
  | removeEdge e => (s.edge? e).elim s (s.withoutEdge e)
  | setSpeed e speed => s.withAltered e fun edge => { edge with speed }
  | setPermissions e permissions => s.withAltered e fun edge => { edge with permissions }
  | buildEdgeLists => s.withEdgeLists

theorem alterEdge_eq (s : StreetLayer) (e : EdgeId) (f : StreetEdge → StreetEdge) :
    StreetLayer.alterEdge e f s =
      match if (s.edge? e).isNone then some (NetworkError.edgeNotFound e) else none with
      | some e => .error e s
      | none => .ok ⟨⟩ (s.withAltered e f) := by
  rw [StreetLayer.alterEdge_apply]
  cases s.edge? e with
  | none => rfl
  | some edge => rfl

/-- A call is granted unless something stands in its way, and then it changes nothing. -/
theorem edit_apply (call : StreetCall) (s : StreetLayer) :
    call.edit s =
      match call.obstacle? s with
      | some e => .error e s
      | none => .ok ⟨⟩ (call.outcome s) := by
  cases call with
  | addVertex c => rfl
  | addEdge a b speed permissions =>
    cases hmissing : [a, b].find? (s.vertices.size ≤ ·) with
    | some v =>
      simp only [obstacle?, hmissing, Option.map_some]
      exact bind_of_error (StreetLayer.addEdge_of_missing hmissing speed permissions)
    | none =>
      have hends : a < s.vertices.size ∧ b < s.vertices.size := by simpa using hmissing
      simp only [obstacle?, hmissing, Option.map_none]
      exact bind_of_ok (StreetLayer.addEdge_of_lt hends.1 hends.2 speed permissions)
  | addStreet a b speed permissions =>
    cases hmissing : [a, b].find? (s.vertices.size ≤ ·) with
    | some v =>
      simp only [obstacle?, hmissing, Option.map_some]
      exact bind_of_error (bind_of_error (StreetLayer.addEdge_of_missing hmissing speed permissions))
    | none =>
      have hends : a < s.vertices.size ∧ b < s.vertices.size := by simpa using hmissing
      obtain ⟨ids, hboth⟩ := StreetLayer.addStreet_of_lt hends.1 hends.2 speed permissions
      simp only [obstacle?, hmissing, Option.map_none]
      exact bind_of_ok hboth
  | removeEdge e =>
    show StreetLayer.removeEdge e s = _
    rw [StreetLayer.removeEdge_apply]
    cases hedge : s.edge? e with
    | none => simp only [obstacle?, hedge, Option.isNone_none, if_true]
    | some edge => simp [obstacle?, outcome, hedge]
  | setSpeed e speed => exact alterEdge_eq s e _
  | setPermissions e permissions => exact alterEdge_eq s e _
  | buildEdgeLists => rfl

end StreetCall

namespace StreetLayer

/-- A call is refused exactly for what stands in its way, and then it has changed nothing.  Once the
edge there has been added, nothing stands in the way of the edge back, so no street is added by half. -/
theorem all_or_nothing (s : StreetLayer) :
    (∀ (call : StreetCall) (e : NetworkError) (s' : StreetLayer),
      call.edit s = .error e s' ↔ call.obstacle? s = some e ∧ s' = s) ∧
    ∀ (a b : VertexId) (speed : UInt16) (permissions : Permissions) (there : EdgeId)
      (half : StreetLayer), addEdge a b speed permissions s = .ok there half →
        ∃ back whole, addEdge b a speed permissions half = .ok back whole ∧
          addStreet a b speed permissions s = .ok (there, back) whole := by
  refine ⟨fun call e s' => ?_, fun a b speed permissions there half hthere => ?_⟩
  · rw [call.edit_apply s]
    cases call.obstacle? s with
    | none => exact ⟨nofun, fun h => nomatch h.1⟩
    | some problem =>
      constructor
      · intro h
        cases h
        exact ⟨rfl, rfl⟩
      · rintro ⟨hproblem, rfl⟩
        cases hproblem
        rfl
  · have hends : a < s.vertices.size ∧ b < s.vertices.size := by
      cases hmissing : [a, b].find? (s.vertices.size ≤ ·) with
      | none => simpa using hmissing
      | some v =>
        rw [addEdge_of_missing hmissing] at hthere
        cases hthere
    rw [addEdge_of_lt hends.1 hends.2] at hthere
    cases hthere
    have hback := addEdge_of_lt (s := s.withEdge (joining s.vertices speed permissions a b))
      hends.2 hends.1 speed permissions
    refine ⟨_, _, hback, ?_⟩
    unfold addStreet
    rw [bind_of_ok (addEdge_of_lt hends.1 hends.2 speed permissions), bind_of_ok hback]
    rfl

/-- Between two vertices a street is laid both ways, and one to a vertex that does not exist is not
begun. -/
theorem one_street_or_none :
    let s := (({} : StreetLayer).withVertex ⟨0, 0⟩).withVertex ⟨0, 10000⟩
    (StreetCall.addStreet 0 7 500 .all).edit s = .error (.vertexNotFound 7) s ∧
      ∃ there back half whole, addEdge 0 1 500 .all s = .ok there half ∧
        addEdge 1 0 500 .all half = .ok back whole ∧
        addStreet 0 1 500 .all s = .ok (there, back) whole := by
  intro s
  obtain ⟨hrefused, hwhole⟩ := all_or_nothing s
  obtain ⟨there, half, hthere⟩ : ∃ there half, addEdge 0 1 500 .all s = .ok there half :=
    ⟨_, _, rfl⟩
  obtain ⟨back, whole, hback, hboth⟩ := hwhole 0 1 500 .all there half hthere
  exact ⟨(hrefused _ _ s).2 ⟨rfl, rfl⟩, there, back, half, whole, hthere, hback, hboth⟩

def after (s : StreetLayer) (calls : List StreetCall) : StreetLayer :=
  calls.foldl (fun s call => call.perform s) s

/-- The layers that come from the empty one by allowed calls, by building networks and by scoped
copies of networks, taken at any time; the layer that was copied goes on as well. -/
inductive ArisesBy (allowed : StreetCall → StreetLayer → Prop) : StreetLayer → Prop
  | empty : ArisesBy allowed {}
  | call {s : StreetLayer} (h : ArisesBy allowed s) (call : StreetCall) (hcall : allowed call s) :
      ArisesBy allowed (call.perform s)
  | build {s : StreetLayer} (h : ArisesBy allowed s) (transit : TransitLayer)
      (params : LinkageParams) : ArisesBy allowed (Network.build s transit params).street.content
  | copy {n : Network} (h : ArisesBy allowed n.street.content) (scope : LayerScope) :
      ArisesBy allowed (n.scopedCopy scope).street.content

/-- The layers that come from the empty one by any calls. -/
abbrev Arises : StreetLayer → Prop := ArisesBy fun _ _ => True

variable {S : StreetLayer → Prop}

namespace Stable

theorem and {T : StreetLayer → Prop} (hS : Stable S) (hT : Stable T) :
    Stable fun s => S s ∧ T s where
  vertex s c h := ⟨hS.vertex s c h.1, hT.vertex s c h.2⟩
  edge s edge h horigin htarget hlive :=
    ⟨hS.edge s edge h.1 horigin htarget hlive, hT.edge s edge h.2 horigin htarget hlive⟩
  removal s e edge h hedge := ⟨hS.removal s e edge h.1 hedge, hT.removal s e edge h.2 hedge⟩
  alteration s e edge f h hedge hf :=
    ⟨hS.alteration s e edge f h.1 hedge hf, hT.alteration s e edge f h.2 hedge hf⟩

variable (h : Stable S) (hlists : ∀ s, S s → S s.withEdgeLists)
include h hlists

theorem keeps_edit (call : StreetCall) : Keeps S call.edit := by
  cases call with
  | addVertex c => exact Keeps.bind (h.addVertex c) fun _ => Keeps.pure
  | addEdge origin target speed permissions =>
    exact Keeps.bind (h.addEdge origin target speed permissions) fun _ => Keeps.pure
  | addStreet a b speed permissions =>
    exact Keeps.bind (h.addStreet a b speed permissions) fun _ => Keeps.pure
  | removeEdge e => exact h.removeEdge e
  | setSpeed e speed => exact h.setSpeed e speed
  | setPermissions e permissions => exact h.setPermissions e permissions
  | buildEdgeLists => exact Keeps.modify hlists

theorem perform (call : StreetCall) {s : StreetLayer} (hs : S s) : S (call.perform s) :=
  (h.keeps_edit hlists call).attempt hs

theorem after (calls : List StreetCall) {s : StreetLayer} (hs : S s) : S (s.after calls) := by
  induction calls generalizing s with
  | nil => exact hs
  | cons call calls ih => exact ih (h.perform hlists call hs)

end Stable

section Arising

variable {s : StreetLayer} {allowed : StreetCall → StreetLayer → Prop}

/-- What allowed calls keep, and new edge lists and a cleared note of changes keep, holds of every
layer that they lead to. -/
theorem ArisesBy.induct (hempty : S {})
    (hcall : ∀ s call, S s → allowed call s → S (call.perform s))
    (hlists : ∀ s, S s → S s.withEdgeLists) (hforget : ∀ s, S s → S s.forgetChanges)
    (hs : s.ArisesBy allowed) : S s := by
  induction hs with
  | empty => exact hempty
  | call _ call hallowed ih => exact hcall _ call ih hallowed
  | build _ transit params ih => exact hforget _ (hlists _ ih)
  | @copy n _ scope ih =>
    show S (if scope.street then (⟨n.street.content.forgetChanges, false⟩ : Part StreetLayer)
      else ⟨n.street.content, true⟩).content
    split
    · exact hforget _ ih
    · exact ih

theorem ArisesBy.arises (h : s.ArisesBy allowed) : s.Arises := by
  induction h with
  | empty => exact .empty
  | call _ call _ ih => exact ih.call call trivial
  | build _ transit params ih => exact ih.build transit params
  | copy _ scope ih => exact ih.copy scope

theorem Arises.after (hs : s.Arises) (calls : List StreetCall) : (s.after calls).Arises := by
  induction calls generalizing s with
  | nil => exact hs
  | cons call calls ih => exact ih (hs.call call trivial)

theorem Arises.invariant (h : Stable S) (hlists : ∀ s, S s → S s.withEdgeLists)
    (hforget : ∀ s, S s → S s.forgetChanges) (hempty : S {}) (hs : s.Arises) : S s :=
  hs.induct hempty (fun _ call hs _ => h.perform hlists call hs) hlists hforget

end Arising

end StreetLayer

end Multimodal
