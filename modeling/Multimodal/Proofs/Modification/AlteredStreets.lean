import Multimodal.Proofs.Street.Views

/-! # Other speeds and permissions

The streets of an area are listed in the order of their numbers, each of them once, and then changed
one after the other.  A change of one leaves all others and every end as they are, so what was listed
stays there until it is changed, and is never changed twice.

* `StreetLayer.TouchedBy`: the edges of an area; `mem_edgesIntersecting` and
  `nodup_edgesIntersecting` say how they are listed.
* `StreetLayer.AlteredTo`: some edges are different and nothing else is; `alteredTo_foldl` is a run.
* `ModifyStreets.applyToEdge_apply`, `ModifyStreets.forM_applyToEdge`: one edge, and all of them.
* `ModifyStreets.alters_area`: what a modification leaves of the streets.
-/

namespace Multimodal

namespace StreetLayer

variable {s s' : StreetLayer} {e : EdgeId} {edge : StreetEdge} {area : Envelope}

/-! ## The edges of an area -/

/-- The edge is not removed, and the box around its two ends shares a point with the area. -/
def TouchedBy (s : StreetLayer) (area : Envelope) (e : EdgeId) : Prop :=
  ∃ edge a b, s.edge? e = some edge ∧ s.vertex? edge.origin = some a ∧
    s.vertex? edge.target = some b ∧ ((Envelope.ofPoint a).insert b).intersects area = true

theorem anchored_of_arises (h : s.Arises) : s.Anchored :=
  h.invariant stable_anchored (fun _ hs => hs) (fun _ hs => hs) anchored_empty

/-- The box around an edge whose ends exist. -/
theorem covering_endPoints (h : s.Anchored) (hedge : s.edge? e = some edge) :
    ∃ a b, s.vertex? edge.origin = some a ∧ s.vertex? edge.target = some b ∧
      Envelope.covering (s.endPoints edge) = some ((Envelope.ofPoint a).insert b) := by
  obtain ⟨horigin, htarget⟩ := h e edge (getElem?_of_edge? hedge)
  have ha : s.vertex? edge.origin = some s.vertices[edge.origin] :=
    Array.getElem?_eq_getElem horigin
  have hb : s.vertex? edge.target = some s.vertices[edge.target] :=
    Array.getElem?_eq_getElem htarget
  refine ⟨_, _, ha, hb, ?_⟩
  unfold endPoints
  rw [ha, hb]
  rfl

theorem mem_edgesIntersecting (h : s.Anchored) :
    e ∈ s.edgesIntersecting area ↔ s.TouchedBy area e := by
  unfold edgesIntersecting
  rw [List.mem_filterMap]
  constructor
  · rintro ⟨⟨e', edge⟩, hlive, hfound⟩
    simp only [Option.ite_none_right_eq_some, Option.some.injEq] at hfound
    obtain ⟨hinside, rfl⟩ := hfound
    obtain ⟨a, b, ha, hb, hcovering⟩ := covering_endPoints h (mem_liveEdges.1 hlive)
    rw [hcovering] at hinside
    exact ⟨edge, a, b, mem_liveEdges.1 hlive, ha, hb, hinside⟩
  · rintro ⟨edge, a, b, hedge, ha, hb, hinside⟩
    obtain ⟨a', b', ha', hb', hcovering⟩ := covering_endPoints h hedge
    obtain rfl : a = a' := Option.some.inj (ha.symm.trans ha')
    obtain rfl : b = b' := Option.some.inj (hb.symm.trans hb')
    refine ⟨(e, edge), mem_liveEdges.2 hedge, ?_⟩
    simp only [hcovering, Option.any_some, hinside, if_true]

theorem nodup_edgesIntersecting (s : StreetLayer) (area : Envelope) :
    (s.edgesIntersecting area).Nodup := by
  unfold edgesIntersecting
  refine List.Pairwise.filterMap _ (R := fun a b : EdgeId × StreetEdge => a.1 < b.1) ?_
    s.pairwise_liveEdges
  intro a b hab x hx y hy
  simp only [Option.ite_none_right_eq_some, Option.some.injEq] at hx hy
  obtain ⟨-, rfl⟩ := hx
  obtain ⟨-, rfl⟩ := hy
  exact Nat.ne_of_lt hab

/-! ## Edges altered -/

/-- The second layer has the chosen edges changed by a function, each of them once, and noted as
altered.  Nothing else of it is different, which goes for the other edges, for all vertices and degrees,
and for the edge lists. -/
structure AlteredTo (s : StreetLayer) (chosen : EdgeId → Prop) (g : StreetEdge → StreetEdge)
    (s' : StreetLayer) : Prop where
  size : s'.edges.size = s.edges.size
  changed : ∀ e edge, chosen e → s.edges[e]? = some edge → s'.edges[e]? = some (g edge)
  others : ∀ e, ¬chosen e → s'.edges[e]? = s.edges[e]?
  altered : ∀ e, e ∈ s'.changes.altered ↔ e ∈ s.changes.altered ∨ chosen e
  rest : s' = { s with
    edges := s'.edges
    changes := { s.changes with altered := s'.changes.altered } }

/-- Edges that are altered one after the other, none of them twice. -/
theorem alteredTo_foldl {es : List EdgeId} (h : es.Nodup) (s : StreetLayer)
    (g : StreetEdge → StreetEdge) :
    s.AlteredTo (· ∈ es) g (es.foldl (fun s e => s.withAltered e g) s) := by
  induction es generalizing s with
  | nil =>
    exact ⟨rfl, fun _ _ he => absurd he List.not_mem_nil, fun _ _ => rfl,
      fun e => (or_iff_left List.not_mem_nil).symm, rfl⟩
  | cons e es ih =>
    obtain ⟨he, hes⟩ := List.nodup_cons.1 h
    have hrest := ih hes (s.withAltered e g)
    rw [List.foldl_cons]
    refine ⟨hrest.size.trans Array.size_modify, fun i edge hi hedge => ?_, fun i hi => ?_,
      fun i => ?_, hrest.rest⟩
    · rcases List.mem_cons.1 hi with rfl | hi
      · rw [hrest.others i he, getElem?_withAltered, if_pos rfl, hedge]
        rfl
      · have hne : e ≠ i := fun heq => he (heq ▸ hi)
        exact hrest.changed i edge hi (by rw [getElem?_withAltered, if_neg hne, hedge])
    · obtain ⟨hne, hi⟩ := not_or.1 (List.mem_cons.not.1 hi)
      rw [hrest.others i hi, getElem?_withAltered, if_neg (Ne.symm hne)]
    · rw [hrest.altered i, List.mem_cons]
      show i ∈ s.changes.altered.insert e ∨ i ∈ es ↔ _
      rw [IdSet.mem_insert]
      tauto

/-- Two alterations of one edge in a row. -/
theorem withAltered_withAltered (s : StreetLayer) (e : EdgeId) (f g : StreetEdge → StreetEdge) :
    (s.withAltered e f).withAltered e g = s.withAltered e fun edge => g (f edge) := by
  have hedges : (s.edges.modify e f).modify e g = s.edges.modify e fun edge => g (f edge) := by
    refine Array.ext_getElem? fun i => ?_
    simp only [Array.getElem?_modify]
    by_cases hi : e = i
    · simp only [if_pos hi, Option.map_map]
      rfl
    · simp only [if_neg hi]
  have haltered : (s.changes.altered.insert e).insert e = s.changes.altered.insert e := by
    ext i
    simp only [IdSet.mem_insert, or_self_left]
  unfold withAltered
  simp only [hedges, haltered]

/-- What an alteration does to other edges does not matter. -/
theorem withAltered_congr {f g : StreetEdge → StreetEdge} (hedge : s.edges[e]? = some edge)
    (h : f edge = g edge) : s.withAltered e f = s.withAltered e g := by
  have hedges : s.edges.modify e f = s.edges.modify e g := by
    refine Array.ext_getElem? fun i => ?_
    simp only [Array.getElem?_modify]
    by_cases hi : e = i
    · subst hi
      rw [if_pos rfl, if_pos rfl, hedge, Option.map_some, Option.map_some, h]
    · rw [if_neg hi, if_neg hi]
  unfold withAltered
  rw [hedges]

end StreetLayer

/-! ## The modification -/

namespace ModifyStreets

open StreetLayer

/-- An edge with its speed scaled, rounded and kept inside what can be stored, if there is a factor,
and with the other permissions, if there are any. -/
def revised (m : ModifyStreets) (edge : StreetEdge) : StreetEdge :=
  { edge with
    speed := match m.speedFactor with
      | some factor => (bounded 1.0 65535.0 (edge.speed.toFloat * factor).round).toUInt16
      | none => edge.speed
    permissions := m.permissions.getD edge.permissions }

theorem sameCourse_revised (m : ModifyStreets) (edge : StreetEdge) :
    (m.revised edge).SameCourse edge := ⟨rfl, rfl, rfl, rfl⟩

theorem edit_alterEdge_apply {s : StreetLayer} {e : EdgeId} (h : (s.edge? e).isSome = true)
    (f : StreetEdge → StreetEdge) (d : Diagnostics) :
    Step.edit (alterEdge e f) ⟨s, d⟩ = .ok ⟨⟩ ⟨s.withAltered e f, d⟩ := by
  obtain ⟨edge, hedge⟩ := Option.isSome_iff_exists.1 h
  refine Step.edit_of_ok (w := ⟨s, d⟩) ?_
  rw [alterEdge_apply, hedge]

/-- An edge that is there is changed, if there is anything to change. -/
theorem applyToEdge_apply (m : ModifyStreets) {s : StreetLayer} {e : EdgeId}
    (h : (s.edge? e).isSome = true) (hsome : m.speedFactor ≠ none ∨ m.permissions ≠ none)
    (d : Diagnostics) : m.applyToEdge e ⟨s, d⟩ = .ok ⟨⟩ ⟨s.withAltered e m.revised, d⟩ := by
  obtain ⟨edge, hedge⟩ := Option.isSome_iff_exists.1 h
  -- the speed that is read is the speed of the edge that is then changed
  have hrevised : ∀ f : StreetEdge → StreetEdge, f edge = m.revised edge →
      (.ok ⟨⟩ ⟨s.withAltered e f, d⟩ : EStateM.Result StepFailure (Worksite StreetLayer) Unit) =
        .ok ⟨⟩ ⟨s.withAltered e m.revised, d⟩ := by
    intro f hf
    rw [withAltered_congr (getElem?_of_edge? hedge) hf]
  obtain ⟨envelope, speedFactor, permissions, found⟩ := m
  unfold applyToEdge
  cases speedFactor with
  | none =>
    cases permissions with
    | none => simp at hsome
    | some permissions => exact edit_alterEdge_apply h _ d
  | some factor =>
    let scaled (x : StreetEdge) : StreetEdge := { x with speed := scaledSpeed edge.speed factor }
    have hscaled := edit_alterEdge_apply h scaled d
    have hthere : ((s.withAltered e scaled).edge? e).isSome = true :=
      (isSome_edge?_withAltered s e e (f := scaled) fun _ => ⟨rfl, rfl, rfl, rfl⟩).trans h
    simp only
    rw [bind_of_ok (Step.target_apply _)]
    simp only [hedge]
    refine (bind_of_ok hscaled).trans ?_
    cases permissions with
    | none => exact hrevised scaled rfl
    | some permissions =>
      refine (edit_alterEdge_apply hthere _ d).trans ?_
      rw [withAltered_withAltered]
      exact hrevised _ rfl

/-- Edges that are there are changed one after the other; each stays there for as long as it takes. -/
theorem forM_applyToEdge (m : ModifyStreets) (hsome : m.speedFactor ≠ none ∨ m.permissions ≠ none)
    {es : List EdgeId} {s : StreetLayer} (h : ∀ e ∈ es, (s.edge? e).isSome = true)
    (d : Diagnostics) : es.forM m.applyToEdge ⟨s, d⟩ =
      .ok ⟨⟩ ⟨es.foldl (fun s e => s.withAltered e m.revised) s, d⟩ := by
  induction es generalizing s with
  | nil => rfl
  | cons e es ih =>
    show (m.applyToEdge e >>= fun _ => es.forM m.applyToEdge) ⟨s, d⟩ = _
    rw [bind_of_ok (m.applyToEdge_apply (h e List.mem_cons_self) hsome d)]
    refine ih fun e' he' => ?_
    rw [isSome_edge?_withAltered s e e' m.sameCourse_revised]
    exact h e' (List.mem_cons_of_mem e he')

/-- A modification that resolves has sound parameters, found the edges of its area, and has something to
change. -/
theorem found_of_resolve {m : ModifyStreets} {street : StreetLayer}
    (h : (m.resolve street).2 = []) :
    (m.resolve street).1 = { m with found := street.edgesIntersecting m.envelope } ∧
      (m.speedFactor ≠ none ∨ m.permissions ≠ none) := by
  have hfaults : m.faults = [] := by
    by_contra hfaults
    unfold resolve at h
    rw [if_neg (List.isEmpty_iff.not.2 hfaults)] at h
    exact hfaults h
  refine ⟨?_, ?_⟩
  · unfold resolve
    rw [if_pos (List.isEmpty_iff.2 hfaults)]
  · obtain ⟨-, hchange⟩ := List.append_eq_nil_iff.1 hfaults
    by_contra hnone
    obtain ⟨hspeed, hpermissions⟩ := not_or.1 hnone
    rw [not_not.1 hspeed, not_not.1 hpermissions] at hchange
    cases hchange

/-- On streets that calls can have made, the edges of the area that are not removed are changed, each
once, and nothing else is. -/
theorem alters_area (m : ModifyStreets) (diagnostics : Diagnostics) (n : Network)
    (hreachable : n.street.content.Arises)
    (hresolve : ((⟨.modifyStreets m, diagnostics⟩ : Modification).resolve n).2 = .ok ()) :
    (⟨.modifyStreets m, diagnostics⟩ : Modification).Reshapes n fun s =>
      n.street.content.AlteredTo (n.street.content.TouchedBy m.envelope) m.revised s := by
  obtain ⟨hfound, hsome⟩ := found_of_resolve (Modification.problems_eq_nil _ hresolve)
  have hstep : ((⟨.modifyStreets m, diagnostics⟩ : Modification).resolve n).1.change.apply =
      Step.onStreet
        ((n.street.content.edgesIntersecting m.envelope).forM (applyToEdge { m with
          found := n.street.content.edgesIntersecting m.envelope })) := by
    show Step.onStreet (m.resolve n.street.content).1.apply = _
    rw [hfound]
    rfl
  have hanchored := anchored_of_arises hreachable
  have hlive : ∀ e ∈ n.street.content.edgesIntersecting m.envelope,
      (n.street.content.edge? e).isSome = true := by
    intro e he
    obtain ⟨edge, _, _, hedge, -⟩ := (mem_edgesIntersecting hanchored).1 he
    exact Option.isSome_iff_exists.2 ⟨edge, hedge⟩
  have haltered := alteredTo_foldl (n.street.content.nodup_edgesIntersecting m.envelope)
    n.street.content m.revised
  simp only [mem_edgesIntersecting hanchored] at haltered
  exact Modification.Reshapes.of_onStreet hstep ⟨_, haltered, forM_applyToEdge _ hsome hlive _⟩

end ModifyStreets

namespace Sample

/-- Three crossings: two lanes from the first one to the east, where there is a loop, two to the north,
and a third one to the east that is removed. -/
def lanes : StreetLayer :=
  ({} : StreetLayer).after
    [.addVertex ⟨450000000, 70000000⟩, .addVertex ⟨450000000, 70060000⟩,
      .addVertex ⟨450100000, 70000000⟩, .addStreet 0 1 500 .all, .addEdge 1 1 500 .all,
      .addEdge 0 1 500 .all, .addStreet 0 2 500 .all, .removeEdge 3, .buildEdgeLists]

def laneTown : Network := { Network.build {} {} {} with street := ⟨lanes, false⟩ }

/-- Twice the speed, and other permissions, where the eastern lanes end. -/
def fasterEast : ModifyStreets where
  envelope := ⟨44.999, 7.002, 45.001, 7.008⟩
  speedFactor := some 2.0
  permissions := some ⟨1⟩

/-- The lanes to the east and the loop are faster, and neither the removed lane nor those to the north
are. -/
theorem alters_fasterEast :
    laneTown.street.content.Arises ∧
      ((⟨.modifyStreets fasterEast, {}⟩ : Modification).resolve laneTown).2 = .ok () ∧
      ((⟨.modifyStreets fasterEast, {}⟩ : Modification).Reshapes laneTown fun s =>
        laneTown.street.content.AlteredTo
          (laneTown.street.content.TouchedBy fasterEast.envelope) fasterEast.revised s) ∧
      laneTown.street.content.edgesIntersecting fasterEast.envelope = [0, 1, 2] := by
  have hreachable : laneTown.street.content.Arises := .after .empty _
  have hresolve : ((⟨.modifyStreets fasterEast, {}⟩ : Modification).resolve laneTown).2 = .ok () := by
    decide +kernel
  refine ⟨hreachable, hresolve, fasterEast.alters_area {} laneTown hreachable hresolve, ?_⟩
  decide +kernel

end Sample

end Multimodal
