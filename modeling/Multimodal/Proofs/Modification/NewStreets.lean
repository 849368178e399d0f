import Multimodal.Proofs.Street.Search

/-! # New streets

A new street begins and ends at vertices that are there.  Its points between become vertices one after
the other, so they have the numbers that come next, and then each vertex on the way is joined with the
following one in both directions.  No vertex is different while that happens, so what joins two of them
can be said beforehand.

* `StreetLayer.mapM_addVertex`, `StreetLayer.forM_addStreet`: the two loops and what they leave.
* `StreetLayer.foldl_withVertex`, `StreetLayer.foldl_withEdge`: a layer with some vertices more, and
  with some edges more.
* `AddStreets.Snaps`: what is found when nothing speaks against a modification; `resolve_of_snaps` and
  `snaps_of_resolve` say that it is just what resolving looks for.
* `AddStreets.withStreet`, `AddStreets.lay_apply`: the layer with the street, and how it comes about.
* `AddStreets.Chained`, `AddStreets.chained_withStreet`: the street as it lies in the layer.
* `AddStreets.lays_chain`: what a modification makes of the streets.
-/

namespace Multimodal

/-! ## Two of each -/

section Pairs

variable {α β : Type}

theorem getElem?_flatMap_two (l : List α) (f g : α → β) (i : Nat) :
    (l.flatMap fun x => [f x, g x])[2 * i]? = l[i]?.map f ∧
      (l.flatMap fun x => [f x, g x])[2 * i + 1]? = l[i]?.map g := by
  induction l generalizing i with
  | nil => exact ⟨rfl, rfl⟩
  | cons a l ih =>
    cases i with
    | zero => exact ⟨rfl, rfl⟩
    | succ i => exact ih i

theorem mem_of_mem_zip_tail {l : List α} {pair : α × α}
    (h : pair ∈ l.zip l.tail) : pair.1 ∈ l ∧ pair.2 ∈ l :=
  ⟨(List.of_mem_zip h).1, List.mem_of_mem_tail (List.of_mem_zip h).2⟩

theorem getElem?_zip_tail {l : List α} {i : Nat} {a b : α} (ha : l[i]? = some a)
    (hb : l[i + 1]? = some b) : (l.zip l.tail)[i]? = some (a, b) := by
  rw [List.getElem?_zip_eq_some, List.getElem?_tail]
  exact ⟨ha, hb⟩

end Pairs

namespace StreetLayer

/-! ## Vertices one after the other -/

/-- Vertices that are added one after the other have the numbers that come next. -/
theorem mapM_addVertex (cs : List Coordinate) (s : StreetLayer) (d : Diagnostics) :
    (cs.mapM fun c => Step.edit (addVertex c)) ⟨s, d⟩ =
      .ok (List.range' s.vertices.size cs.length) ⟨cs.foldl withVertex s, d⟩ := by
  induction cs generalizing s with
  | nil => rfl
  | cons c cs ih =>
    have hadd : Step.edit (addVertex c) ⟨s, d⟩ = .ok s.vertices.size ⟨s.withVertex c, d⟩ :=
      Step.edit_of_ok rfl
    have hsize : (s.withVertex c).vertices.size = s.vertices.size + 1 := Array.size_push _
    rw [List.mapM_cons, bind_of_ok hadd, bind_of_ok (ih _), hsize]
    rfl

theorem foldl_withVertex (cs : List Coordinate) (s : StreetLayer) :
    cs.foldl withVertex s = { s with
      vertices := s.vertices ++ cs.toArray
      liveDegree := s.liveDegree ++ Array.replicate cs.length 0
      edgeListsStale := s.edgeListsStale || !cs.isEmpty } := by
  induction cs generalizing s with
  | nil => simp
  | cons c cs ih =>
    rw [List.foldl_cons, ih]
    have hdegrees : s.liveDegree.push 0 ++ Array.replicate cs.length 0 =
        s.liveDegree ++ Array.replicate (cs.length + 1) 0 := by
      refine Array.ext' ?_
      simp [List.replicate_succ]
    simp [withVertex, hdegrees]

/-! ## Edges one after the other -/

theorem foldl_withEdge (es : List StreetEdge) (s : StreetLayer) :
    es.foldl withEdge s = { s with
      edges := s.edges ++ es.toArray
      liveDegree := es.foldl
        (fun degrees edge => (degrees.modify edge.origin (· + 1)).modify edge.target (· + 1))
        s.liveDegree
      edgeListsStale := s.edgeListsStale || !es.isEmpty
      changes := { s.changes with
        added := (List.range' s.edges.size es.length).foldl IdSet.insert s.changes.added } } := by
  induction es generalizing s with
  | nil => simp
  | cons edge es ih =>
    rw [List.foldl_cons, ih]
    simp [withEdge, List.range'_succ]

/-- Streets that are laid one after the other between vertices that are there. -/
theorem forM_addStreet {pairs : List (VertexId × VertexId)} {s : StreetLayer}
    (h : ∀ pair ∈ pairs, pair.1 < s.vertices.size ∧ pair.2 < s.vertices.size) (speed : UInt16)
    (permissions : Permissions) (d : Diagnostics) :
    (pairs.forM fun pair => do
      let _ ← Step.edit (addStreet pair.1 pair.2 speed permissions)) ⟨s, d⟩ =
      .ok ⟨⟩ ⟨(pairs.flatMap (bothWays s.vertices speed permissions)).foldl withEdge s, d⟩ := by
  induction pairs generalizing s with
  | nil => rfl
  | cons pair pairs ih =>
    obtain ⟨ha, hb⟩ := h pair List.mem_cons_self
    obtain ⟨ids, hstreet⟩ := addStreet_of_lt ha hb speed permissions
    have hlaid : (do
        let _ ← Step.edit (addStreet pair.1 pair.2 speed permissions) : Step StreetLayer Unit)
        ⟨s, d⟩ = .ok ⟨⟩ ⟨(bothWays s.vertices speed permissions pair).foldl withEdge s, d⟩ :=
      bind_of_ok (Step.edit_of_ok (w := ⟨s, d⟩) hstreet)
    rw [List.flatMap_cons, List.foldl_append]
    refine (bind_of_ok hlaid).trans ?_
    exact ih fun pair' hpair => h pair' (List.mem_cons_of_mem pair hpair)

theorem lt_of_nearestVertex? {s : StreetLayer} {p : Coordinate} {radius : Float} {v : VertexId}
    {d : Float} (h : s.nearestVertex? p radius = some (v, d)) : v < s.vertices.size := by
  obtain ⟨-, c, hc, -⟩ := mem_verticesWithin.1 (List.mem_of_mem_head? h)
  exact (Array.getElem?_eq_some_iff.1 hc).1

end StreetLayer

/-! ## The modification -/

namespace AddStreets

open StreetLayer

/-! ### What is found -/

/-- The first of the connected vertices around a point, in the order of their distance. -/
def closest? (street : StreetLayer) (radius : Float) (p : Float × Float) : Option VertexId :=
  (street.verticesWithin (place p) radius).head?.map (·.1)

theorem snap_of_closest {street : StreetLayer} {radius : Float} {p : Float × Float} {v : VertexId}
    (h : closest? street radius p = some v) (which : StreetEnd) :
    snap street radius which p = (some v, []) := by
  obtain ⟨found, hfound, rfl⟩ := Option.map_eq_some_iff.1 h
  unfold snap nearestVertex?
  rw [hfound]

theorem closest_of_snap {street : StreetLayer} {radius : Float} {p : Float × Float}
    {which : StreetEnd} (h : (snap street radius which p).2 = []) :
    ∃ v, closest? street radius p = some v := by
  unfold snap at h
  unfold closest?
  cases hfound : street.nearestVertex? (place p) radius with
  | none => simp [hfound] at h
  | some found => exact ⟨found.1, Option.map_eq_some_iff.2 ⟨found, hfound, rfl⟩⟩

/-- The speed is one, there are two points or more, and the vertices are the closest ones to the first
and to the last point, out of those that are near enough to be linked. -/
structure Snaps (m : AddStreets) (n : Network) (start finish : VertexId) : Prop where
  speed : isFactor m.speedKph = true
  points : 2 ≤ m.coordinates.length
  start : ∃ first, m.coordinates.head? = some first ∧
    closest? n.street.content n.params.linkRadius first = some start
  finish : ∃ last, m.coordinates.getLast? = some last ∧
    closest? n.street.content n.params.linkRadius last = some finish

theorem resolve_of_snaps {m : AddStreets} {n : Network} {start finish : VertexId}
    (h : m.Snaps n start finish) : m.resolve n.street.content n.params.linkRadius =
      ({ m with endPoints := some (start, finish) }, []) := by
  obtain ⟨hspeed, hpoints, ⟨first, hfirst, hstart⟩, last, hlast, hfinish⟩ := h
  unfold resolve
  rw [hfirst, hlast]
  simp only [snap_of_closest hstart, snap_of_closest hfinish, if_pos hspeed,
    if_neg (Nat.not_lt.2 hpoints), List.append_nil]

theorem snaps_of_resolve {m : AddStreets} {n : Network}
    (h : (m.resolve n.street.content n.params.linkRadius).2 = []) :
    ∃ start finish, m.Snaps n start finish := by
  unfold resolve at h
  cases hfirst : m.coordinates.head? with
  | none => simp [hfirst] at h
  | some first =>
    cases hlast : m.coordinates.getLast? with
    | none => simp [hfirst, hlast] at h
    | some last =>
      simp only [hfirst, hlast, List.append_eq_nil_iff] at h
      obtain ⟨⟨⟨hspeed, hpoints⟩, hstart⟩, hfinish⟩ := h
      obtain ⟨start, hstart⟩ := closest_of_snap hstart
      obtain ⟨finish, hfinish⟩ := closest_of_snap hfinish
      refine ⟨start, finish, ?_, ?_, ⟨first, hfirst, hstart⟩, last, hlast, hfinish⟩
      · by_contra hspeed'
        rw [if_neg hspeed'] at hspeed
        cases hspeed
      · by_contra hpoints'
        rw [if_pos (Nat.not_le.1 hpoints')] at hpoints
        cases hpoints

theorem lt_of_closest {street : StreetLayer} {radius : Float} {p : Float × Float} {v : VertexId}
    (h : closest? street radius p = some v) : v < street.vertices.size := by
  obtain ⟨found, hfound, rfl⟩ := Option.map_eq_some_iff.1 h
  exact lt_of_nearestVertex? (d := found.2) hfound

/-! ### What is laid -/

/-- The vertices on the way of a new street with so many points between its ends. -/
def way (s : StreetLayer) (start finish : VertexId) (between : Nat) : List VertexId :=
  start :: List.range' s.vertices.size between ++ [finish]

/-- The second layer has the new street in addition.  The points between its ends are vertices in their
order, and every two neighbours on its way are joined there and back, with edges that are noted as
added.  Nothing else is different, except that degrees count the new edges and edge lists are stale. -/
structure Chained (m : AddStreets) (s : StreetLayer) (start finish : VertexId) (s' : StreetLayer) :
    Prop where
  vertices : s'.vertices = s.vertices ++
    (((m.coordinates.drop 1).take (m.coordinates.length - 2)).map place).toArray
  vertexCount : s'.vertices.size = s.vertices.size + (m.coordinates.length - 2)
  edgeCount : s'.edges.size = s.edges.size + 2 * (m.coordinates.length - 1)
  earlier : ∀ e < s.edges.size, s'.edges[e]? = s.edges[e]?
  joined : ∀ i a b, (way s start finish (m.coordinates.length - 2))[i]? = some a →
    (way s start finish (m.coordinates.length - 2))[i + 1]? = some b →
    ∃ p q, s'.vertex? a = some p ∧ s'.vertex? b = some q ∧
      s'.edges[s.edges.size + 2 * i]? =
        some ⟨a, b, edgeLength p q, speedOfKph m.speedKph, m.permissions, false⟩ ∧
      s'.edges[s.edges.size + (2 * i + 1)]? =
        some ⟨b, a, edgeLength q p, speedOfKph m.speedKph, m.permissions, false⟩
  added : ∀ e, e ∈ s'.changes.added ↔
    e ∈ s.changes.added ∨ s.edges.size ≤ e ∧ e < s'.edges.size
  rest : s' = { s with
    vertices := s'.vertices
    edges := s'.edges
    liveDegree := s'.liveDegree
    edgeListsStale := true
    changes := { s.changes with added := s'.changes.added } }

theorem interior_eq (m : AddStreets) :
    m.interior = ((m.coordinates.drop 1).take (m.coordinates.length - 2)).map place := by
  unfold interior
  rw [List.dropLast_eq_take, List.length_tail, List.drop_one]
  rfl

theorem length_interior (m : AddStreets) : m.interior.length = m.coordinates.length - 2 := by
  rw [interior_eq, List.length_map, List.length_take, List.length_drop]
  omega

/-- The layer with the vertices of a new street. -/
def withInterior (m : AddStreets) (s : StreetLayer) : StreetLayer := m.interior.foldl withVertex s

theorem vertices_withInterior (m : AddStreets) (s : StreetLayer) :
    (m.withInterior s).vertices = s.vertices ++ m.interior.toArray := by
  unfold withInterior
  rw [foldl_withVertex]

theorem size_withInterior (m : AddStreets) (s : StreetLayer) :
    (m.withInterior s).vertices.size = s.vertices.size + m.interior.length := by
  rw [vertices_withInterior, Array.size_append]
  rfl

theorem edges_withInterior (m : AddStreets) (s : StreetLayer) :
    (m.withInterior s).edges = s.edges := by
  unfold withInterior
  rw [foldl_withVertex]

theorem length_way (m : AddStreets) (hpoints : 2 ≤ m.coordinates.length) (s : StreetLayer)
    (start finish : VertexId) :
    (way s start finish m.interior.length).length = m.coordinates.length := by
  have hlength := m.length_interior
  simp only [way, List.length_append, List.length_cons, List.length_range', List.length_nil]
  omega

theorem lt_of_mem_way {m : AddStreets} {s : StreetLayer} {start finish v : VertexId}
    (hstart : start < s.vertices.size) (hfinish : finish < s.vertices.size)
    (hv : v ∈ way s start finish m.interior.length) : v < (m.withInterior s).vertices.size := by
  unfold way at hv
  rw [List.mem_append, List.mem_cons, List.mem_range'_1, List.mem_singleton] at hv
  rw [size_withInterior]
  rcases hv with (rfl | hv) | rfl
  · exact Nat.lt_add_right _ hstart
  · exact hv.2
  · exact Nat.lt_add_right _ hfinish

/-- The edges of a new street. -/
def chain (m : AddStreets) (start finish : VertexId) (s : StreetLayer) : List StreetEdge :=
  let path := way s start finish m.interior.length
  (path.zip path.tail).flatMap
    (bothWays (m.withInterior s).vertices (speedOfKph m.speedKph) m.permissions)

theorem length_chain (m : AddStreets) (hpoints : 2 ≤ m.coordinates.length) (s : StreetLayer)
    (start finish : VertexId) :
    (m.chain start finish s).length = 2 * (m.coordinates.length - 1) := by
  rw [← m.length_way hpoints s start finish]
  unfold chain bothWays
  simp [List.length_flatMap, Nat.mul_comm]

theorem getElem?_chain {m : AddStreets} {s : StreetLayer} {start finish a b : VertexId} {i : Nat}
    (ha : (way s start finish m.interior.length)[i]? = some a)
    (hb : (way s start finish m.interior.length)[i + 1]? = some b) :
    (m.chain start finish s)[2 * i]? = some
        (joining (m.withInterior s).vertices (speedOfKph m.speedKph) m.permissions a b) ∧
      (m.chain start finish s)[2 * i + 1]? = some
        (joining (m.withInterior s).vertices (speedOfKph m.speedKph) m.permissions b a) := by
  let path := way s start finish m.interior.length
  let edge := joining (m.withInterior s).vertices (speedOfKph m.speedKph) m.permissions
  have hpair : (path.zip path.tail)[i]? = some (a, b) := getElem?_zip_tail ha hb
  obtain ⟨hthere, hback⟩ := getElem?_flatMap_two (path.zip path.tail)
    (fun pair => edge pair.1 pair.2) (fun pair => edge pair.2 pair.1) i
  rw [hpair] at hthere hback
  exact ⟨hthere, hback⟩

/-- The layer with a new street between two vertices. -/
def withStreet (m : AddStreets) (start finish : VertexId) (s : StreetLayer) : StreetLayer :=
  (m.chain start finish s).foldl withEdge (m.withInterior s)

theorem lay_apply (m : AddStreets) {s : StreetLayer} {start finish : VertexId}
    (hstart : start < s.vertices.size) (hfinish : finish < s.vertices.size) (d : Diagnostics) :
    m.lay start finish ⟨s, d⟩ = .ok ⟨⟩ ⟨m.withStreet start finish s, d⟩ := by
  unfold lay
  rw [bind_of_ok (mapM_addVertex m.interior s d)]
  refine forM_addStreet (fun pair hpair => ?_) _ _ _
  obtain ⟨ha, hb⟩ := mem_of_mem_zip_tail hpair
  exact ⟨lt_of_mem_way hstart hfinish ha, lt_of_mem_way hstart hfinish hb⟩

section WithStreet

variable (m : AddStreets) (start finish : VertexId) (s : StreetLayer)

theorem vertices_withStreet :
    (m.withStreet start finish s).vertices = (m.withInterior s).vertices := by
  unfold withStreet
  rw [foldl_withEdge]

theorem edges_withStreet :
    (m.withStreet start finish s).edges = s.edges ++ (m.chain start finish s).toArray := by
  unfold withStreet
  rw [foldl_withEdge, edges_withInterior]

theorem mem_added_withStreet {e : EdgeId} : e ∈ (m.withStreet start finish s).changes.added ↔
    e ∈ s.changes.added ∨
      s.edges.size ≤ e ∧ e < s.edges.size + (m.chain start finish s).length := by
  unfold withStreet
  rw [foldl_withEdge]
  simp only [IdSet.mem_foldl_insert, List.mem_range'_1, edges_withInterior]
  unfold withInterior
  rw [foldl_withVertex]

/-- What is not part of the new street. -/
theorem withStreet_rest (hsome : m.chain start finish s ≠ []) :
    m.withStreet start finish s = { s with
      vertices := (m.withStreet start finish s).vertices
      edges := (m.withStreet start finish s).edges
      liveDegree := (m.withStreet start finish s).liveDegree
      edgeListsStale := true
      changes := { s.changes with added := (m.withStreet start finish s).changes.added } } := by
  unfold withStreet
  rw [foldl_withEdge, List.isEmpty_eq_false_iff.2 hsome]
  unfold withInterior
  rw [foldl_withVertex]
  simp only [Bool.not_false, Bool.or_true]

variable {m start finish s}

theorem vertex?_withStreet {v : VertexId} (hstart : start < s.vertices.size)
    (hfinish : finish < s.vertices.size) (hv : v ∈ way s start finish m.interior.length) :
    (m.withStreet start finish s).vertex? v = some (m.withInterior s).vertices[v]! := by
  rw [← vertices_withStreet m start finish s]
  refine vertex?_of_lt ?_
  rw [vertices_withStreet]
  exact lt_of_mem_way hstart hfinish hv

theorem chained_withStreet (hpoints : 2 ≤ m.coordinates.length) (hstart : start < s.vertices.size)
    (hfinish : finish < s.vertices.size) :
    m.Chained s start finish (m.withStreet start finish s) := by
  have hchain := m.length_chain hpoints s start finish
  have hcount : (m.withStreet start finish s).edges.size =
      s.edges.size + 2 * (m.coordinates.length - 1) := by
    rw [edges_withStreet, Array.size_append, ← hchain]
    rfl
  have hnew : ∀ j, (m.withStreet start finish s).edges[s.edges.size + j]? =
      (m.chain start finish s)[j]? := by
    intro j
    rw [edges_withStreet, Array.getElem?_append_right (Nat.le_add_right _ _),
      Nat.add_sub_cancel_left, List.getElem?_toArray]
  refine {
    vertices := by rw [vertices_withStreet, vertices_withInterior, interior_eq]
    vertexCount := by rw [vertices_withStreet, size_withInterior, length_interior]
    edgeCount := hcount
    earlier := fun e he => by rw [edges_withStreet, Array.getElem?_append_left he]
    joined := ?_
    added := fun e => by rw [hcount, mem_added_withStreet, hchain]
    rest := ?_ }
  · rw [← length_interior]
    intro i a b ha hb
    obtain ⟨hforth, hback⟩ := getElem?_chain ha hb
    exact ⟨_, _, vertex?_withStreet hstart hfinish (List.mem_of_getElem? ha),
      vertex?_withStreet hstart hfinish (List.mem_of_getElem? hb),
      (hnew (2 * i)).trans hforth, (hnew (2 * i + 1)).trans hback⟩
  · refine m.withStreet_rest start finish s fun hnil => ?_
    rw [hnil, List.length_nil] at hchain
    omega

end WithStreet

/-- A new street goes through where it resolves and leaves the streets with the chain between the two
vertices that it snapped to; it resolves just where there are two such vertices and nothing is wrong
with the parameters. -/
theorem lays_chain (m : AddStreets) (diagnostics : Diagnostics) (n : Network) :
    let x : Modification := ⟨.addStreets m, diagnostics⟩
    match (x.resolve n).2 with
    | .ok () => ∃ start finish, m.Snaps n start finish ∧
      (x.resolve n).1.change = .addStreets { m with endPoints := some (start, finish) } ∧
      x.Reshapes n fun s => m.Chained n.street.content start finish s
    | .error _ => ¬∃ start finish, m.Snaps n start finish := by
  intro x
  by_cases hsnaps : ∃ start finish, m.Snaps n start finish
  · obtain ⟨start, finish, hsnaps⟩ := hsnaps
    have hresolve := resolve_of_snaps hsnaps
    have hok : (x.resolve n).2 = .ok () :=
      x.resolve_of_problems (congrArg Prod.snd hresolve)
    have hchange : (x.resolve n).1.change =
        .addStreets { m with endPoints := some (start, finish) } :=
      congrArg (fun found : AddStreets × List Remark => Change.addStreets found.1) hresolve
    have hstep : (x.resolve n).1.change.apply = Step.onStreet (m.lay start finish) := by
      rw [hchange]
      rfl
    obtain ⟨first, -, hstart⟩ := hsnaps.start
    obtain ⟨last, -, hfinish⟩ := hsnaps.finish
    have hstart' := lt_of_closest hstart
    have hfinish' := lt_of_closest hfinish
    rw [hok]
    exact ⟨start, finish, hsnaps, hchange, Modification.Reshapes.of_onStreet hstep
      ⟨_, chained_withStreet hsnaps.points hstart' hfinish', m.lay_apply hstart' hfinish' _⟩⟩
  · cases hresult : (x.resolve n).2 with
    | ok u => exact absurd (snaps_of_resolve (x.problems_eq_nil hresult)) hsnaps
    | error f => exact hsnaps

end AddStreets

end Multimodal
