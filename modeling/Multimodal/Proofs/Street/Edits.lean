import Multimodal.Modification.Streets
import Multimodal.Proofs.Effect

/-! # Operations on the streets

An operation either leaves the street layer as it was and is refused, or adds a vertex or an edge,
removes an edge or alters one in place.  What these four do not break, no operation and no
modification of the streets breaks.

* `addEdge_apply`, `removeEdge_apply`, `alterEdge_apply`: what an operation does to a layer.
* `joining`, `addEdge_of_lt`, `addStreet_of_lt`: edges between vertices that exist.
* `edge?_withAltered`: the edges of a layer after one of them is altered.
* `StreetLayer.Stable`: the properties that none of the four ways of changing a layer breaks.
* `Stable.modifyStreets`, `Stable.removeStreets`, `Stable.lay`: the modifications keep them.
-/

namespace Multimodal

/-- Two states of one edge: its ends, its length and its removal agree. -/
structure StreetEdge.SameCourse (a b : StreetEdge) : Prop where
  origin : a.origin = b.origin
  target : a.target = b.target
  length : a.length = b.length
  removed : a.removed = b.removed

namespace StreetLayer

/-! ## Single operations -/

theorem addEdge_apply (s : StreetLayer) (origin target : VertexId) (speed : UInt16)
    (permissions : Permissions) :
    addEdge origin target speed permissions s =
      match s.vertex? origin, s.vertex? target with
      | none, _ => .error (.vertexNotFound origin) s
      | some _, none => .error (.vertexNotFound target) s
      | some a, some b =>
        .ok s.edges.size
          (s.withEdge ⟨origin, target, edgeLength a b, speed, permissions, false⟩) := by
  unfold addEdge
  show EStateM.bind get _ s = _
  cases ha : s.vertex? origin with
  | none =>
    simp only [EStateM.bind, get, getThe, MonadStateOf.get, EStateM.get, ha]
    rfl
  | some a =>
    cases hb : s.vertex? target with
    | none =>
      simp only [EStateM.bind, get, getThe, MonadStateOf.get, EStateM.get, ha, hb]
      rfl
    | some b =>
      simp only [EStateM.bind, get, getThe, MonadStateOf.get, EStateM.get, ha, hb]
      rfl

theorem removeEdge_apply (s : StreetLayer) (e : EdgeId) :
    removeEdge e s =
      match s.edge? e with
      | none => .error (.edgeNotFound e) s
      | some edge => .ok ⟨⟩ (s.withoutEdge e edge) := by
  unfold removeEdge
  show EStateM.bind get _ s = _
  cases h : s.edge? e with
  | none =>
    simp only [EStateM.bind, get, getThe, MonadStateOf.get, EStateM.get, h]
    rfl
  | some edge =>
    simp only [EStateM.bind, get, getThe, MonadStateOf.get, EStateM.get, h]
    rfl

theorem alterEdge_apply (s : StreetLayer) (e : EdgeId) (f : StreetEdge → StreetEdge) :
    alterEdge e f s =
      match s.edge? e with
      | none => .error (.edgeNotFound e) s
      | some _ => .ok ⟨⟩ (s.withAltered e f) := by
  unfold alterEdge
  show EStateM.bind get _ s = _
  cases h : s.edge? e with
  | none =>
    simp only [EStateM.bind, get, getThe, MonadStateOf.get, EStateM.get, h]
    rfl
  | some edge =>
    simp only [EStateM.bind, get, getThe, MonadStateOf.get, EStateM.get, h]
    rfl

theorem lt_of_vertex? {s : StreetLayer} {v : VertexId} {c : Coordinate}
    (h : s.vertex? v = some c) : v < s.vertices.size := by
  obtain ⟨hv, -⟩ := Array.getElem?_eq_some_iff.1 h
  exact hv

theorem getElem?_of_edge? {s : StreetLayer} {e : EdgeId} {edge : StreetEdge}
    (h : s.edge? e = some edge) : s.edges[e]? = some edge := by
  obtain ⟨hedge, -⟩ := Option.filter_eq_some_iff.1 h
  exact hedge

/-! ## Edges between vertices that exist -/

/-- The edge from one of these vertices to another. -/
def joining (vertices : Array Coordinate) (speed : UInt16) (permissions : Permissions)
    (a b : VertexId) : StreetEdge :=
  ⟨a, b, edgeLength vertices[a]! vertices[b]!, speed, permissions, false⟩

/-- The edges there and back between the two vertices of a pair. -/
def bothWays (vertices : Array Coordinate) (speed : UInt16) (permissions : Permissions)
    (pair : VertexId × VertexId) : List StreetEdge :=
  [joining vertices speed permissions pair.1 pair.2,
    joining vertices speed permissions pair.2 pair.1]

theorem vertex?_of_lt {s : StreetLayer} {v : VertexId} (h : v < s.vertices.size) :
    s.vertex? v = some s.vertices[v]! := by
  unfold vertex?
  rw [Array.getElem?_eq_getElem h, getElem!_pos s.vertices v h]

theorem addEdge_of_lt {s : StreetLayer} {a b : VertexId} (ha : a < s.vertices.size)
    (hb : b < s.vertices.size) (speed : UInt16) (permissions : Permissions) :
    addEdge a b speed permissions s =
      .ok s.edges.size (s.withEdge (joining s.vertices speed permissions a b)) := by
  rw [addEdge_apply, vertex?_of_lt ha, vertex?_of_lt hb]
  rfl

theorem addStreet_of_lt {s : StreetLayer} {a b : VertexId} (ha : a < s.vertices.size)
    (hb : b < s.vertices.size) (speed : UInt16) (permissions : Permissions) :
    ∃ ids, addStreet a b speed permissions s =
      .ok ids ((bothWays s.vertices speed permissions (a, b)).foldl withEdge s) := by
  let there := s.withEdge (joining s.vertices speed permissions a b)
  have hback := addEdge_of_lt (s := there) hb ha speed permissions
  refine ⟨(s.edges.size, there.edges.size), ?_⟩
  unfold addStreet
  rw [bind_of_ok (addEdge_of_lt ha hb speed permissions), bind_of_ok hback]
  rfl

theorem vertex?_of_le {s : StreetLayer} {v : VertexId} (h : s.vertices.size ≤ v) :
    s.vertex? v = none := Array.getElem?_eq_none h

/-- Where an end does not exist, the first such end is what is reported. -/
theorem addEdge_of_missing {s : StreetLayer} {a b v : VertexId}
    (h : [a, b].find? (s.vertices.size ≤ ·) = some v) (speed : UInt16) (permissions : Permissions) :
    addEdge a b speed permissions s = .error (.vertexNotFound v) s := by
  rw [addEdge_apply]
  by_cases ha : s.vertices.size ≤ a
  · rw [List.find?_cons_of_pos (by simpa using ha)] at h
    cases h
    rw [vertex?_of_le ha]
  · rw [List.find?_cons_of_neg (by simpa using ha)] at h
    have hb : s.vertices.size ≤ b ∧ b = v := by simpa using h
    obtain ⟨hb, rfl⟩ := hb
    rw [vertex?_of_lt (Nat.lt_of_not_le ha), vertex?_of_le hb]

/-! ## Altered edges -/

theorem getElem?_withAltered (s : StreetLayer) (e i : EdgeId) (f : StreetEdge → StreetEdge) :
    (s.withAltered e f).edges[i]? = if e = i then s.edges[i]?.map f else s.edges[i]? :=
  Array.getElem?_modify ..

theorem edge?_withAltered (s : StreetLayer) (e i : EdgeId) {f : StreetEdge → StreetEdge}
    (hf : ∀ x : StreetEdge, (f x).SameCourse x) :
    (s.withAltered e f).edge? i = if e = i then (s.edge? i).map f else s.edge? i := by
  unfold edge?
  rw [getElem?_withAltered]
  split
  · cases s.edges[i]? with
    | none => rfl
    | some edge => simp [Option.filter_some, (hf edge).removed, apply_ite]
  · rfl

theorem isSome_edge?_withAltered (s : StreetLayer) (e i : EdgeId) {f : StreetEdge → StreetEdge}
    (hf : ∀ x : StreetEdge, (f x).SameCourse x) :
    ((s.withAltered e f).edge? i).isSome = (s.edge? i).isSome := by
  rw [edge?_withAltered s e i hf]
  split
  · rw [Option.isSome_map]
  · rfl

/-! ## Stable properties -/

/-- A property that survives every way of changing a layer: a vertex more, an edge more between
vertices that exist, the removal of an edge, and an alteration that leaves its course as it is. -/
structure Stable (S : StreetLayer → Prop) : Prop where
  vertex : ∀ s c, S s → S (s.withVertex c)
  edge : ∀ s edge, S s → edge.origin < s.vertices.size → edge.target < s.vertices.size →
    edge.removed = false → S (s.withEdge edge)
  removal : ∀ s e edge, S s → s.edge? e = some edge → S (s.withoutEdge e edge)
  alteration : ∀ s e edge f, S s → s.edge? e = some edge →
    (∀ x : StreetEdge, (f x).SameCourse x) → S (s.withAltered e f)

namespace Stable

variable {S : StreetLayer → Prop} (h : Stable S)
include h

theorem addVertex (c : Coordinate) : Keeps S (addVertex c) :=
  fun s hs => h.vertex s c hs

theorem addEdge (origin target : VertexId) (speed : UInt16) (permissions : Permissions) :
    Keeps S (addEdge origin target speed permissions) := by
  intro s hs
  rw [addEdge_apply]
  cases ha : s.vertex? origin with
  | none => exact hs
  | some a =>
    cases hb : s.vertex? target with
    | none => exact hs
    | some b => exact h.edge s _ hs (lt_of_vertex? ha) (lt_of_vertex? hb) rfl

theorem addStreet (a b : VertexId) (speed : UInt16) (permissions : Permissions) :
    Keeps S (addStreet a b speed permissions) := by
  refine Keeps.bind (h.addEdge a b speed permissions) fun there => ?_
  exact Keeps.bind (h.addEdge b a speed permissions) fun back => Keeps.pure

theorem removeEdge (e : EdgeId) : Keeps S (removeEdge e) := by
  intro s hs
  rw [removeEdge_apply]
  cases hedge : s.edge? e with
  | none => exact hs
  | some edge => exact h.removal s e edge hs hedge

theorem alterEdge (e : EdgeId) {f : StreetEdge → StreetEdge}
    (hf : ∀ x : StreetEdge, (f x).SameCourse x) : Keeps S (alterEdge e f) := by
  intro s hs
  rw [alterEdge_apply]
  cases hedge : s.edge? e with
  | none => exact hs
  | some edge => exact h.alteration s e edge f hs hedge hf

theorem setSpeed (e : EdgeId) (speed : UInt16) : Keeps S (setSpeed e speed) :=
  h.alterEdge e fun _ => ⟨rfl, rfl, rfl, rfl⟩

theorem setPermissions (e : EdgeId) (permissions : Permissions) :
    Keeps S (setPermissions e permissions) :=
  h.alterEdge e fun _ => ⟨rfl, rfl, rfl, rfl⟩

/-! ## Modifications of the streets -/

theorem modifyStreets (m : ModifyStreets) : Keeps (fun w => S w.target) m.apply := by
  refine Keeps.forM fun e _ => ?_
  unfold ModifyStreets.applyToEdge
  cases m.permissions with
  | none =>
    cases m.speedFactor with
    | none => exact Keeps.pure
    | some factor =>
      refine Keeps.bind Keeps.target fun street => ?_
      cases street.edge? e with
      | none => exact Keeps.bind Keeps.fail fun _ => Keeps.pure
      | some edge => exact Keeps.bind (Keeps.edit (h.setSpeed e _)) fun _ => Keeps.pure
  | some permissions =>
    have hpermissions := Keeps.edit (h.setPermissions e permissions)
    cases m.speedFactor with
    | none => exact hpermissions
    | some factor =>
      refine Keeps.bind Keeps.target fun street => ?_
      cases street.edge? e with
      | none => exact Keeps.bind Keeps.fail fun _ => hpermissions
      | some edge => exact Keeps.bind (Keeps.edit (h.setSpeed e _)) fun _ => hpermissions

theorem removeStreets (m : RemoveStreets) : Keeps (fun w => S w.target) m.apply := by
  have hedges : Keeps (fun w : Worksite StreetLayer => S w.target)
      (m.found.mapM RemoveStreets.applyToEdge) := by
    refine Keeps.mapM fun e _ => ?_
    refine Keeps.bind Keeps.target fun street => ?_
    by_cases hgone : (street.edge? e).isNone = true
    · rw [if_pos hgone]
      exact Keeps.pure
    · rw [if_neg hgone]
      exact Keeps.bind (Keeps.edit (h.removeEdge e)) fun _ => Keeps.pure
  refine Keeps.bind hedges fun gone => ?_
  by_cases halready : 0 < gone.count true
  · simp only [if_pos halready]
    exact Keeps.warn
  · simp only [if_neg halready]
    exact Keeps.pure

theorem lay (m : AddStreets) (start finish : VertexId) :
    Keeps (fun w => S w.target) (m.lay start finish) := by
  refine Keeps.bind (Keeps.mapM fun c _ => Keeps.edit (h.addVertex c)) fun between => ?_
  refine Keeps.forM fun pair _ => ?_
  exact Keeps.bind (Keeps.edit (h.addStreet pair.1 pair.2 _ _)) fun _ => Keeps.pure

end Stable

end StreetLayer

end Multimodal
