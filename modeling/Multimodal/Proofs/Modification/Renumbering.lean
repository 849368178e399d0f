import Multimodal.Modification.Basic
import Multimodal.Proofs.Network.Renumbering

/-! # Modifications under other edge numbers

A modification finds the same edges in a renumbered network, under their numbers there, and then makes
the same change.  Only one kind fails if an edge it found is gone; the edges it needs are watched while
it can still come.

* `Change.renumber`: a change that found its edges under other numbers.
* `Change.alike_apply`: applying does alike.
* `Change.resolve_renumber`: what resolving finds, and what it reports.
-/

namespace Multimodal

variable {f : EdgeId → EdgeId} {needed : List EdgeId}

/-! ## Streets that change -/

/-- The modification with the edges that it found under other numbers. -/
def ModifyStreets.renumber (f : EdgeId → EdgeId) (m : ModifyStreets) : ModifyStreets :=
  { m with found := m.found.map f }

/-- The modification with the edges that it found under other numbers. -/
def RemoveStreets.renumber (f : EdgeId → EdgeId) (m : RemoveStreets) : RemoveStreets :=
  { m with found := m.found.map f }

theorem ModifyStreets.alike_applyToEdge (m : ModifyStreets) {k : EdgeId} (hk : k ∈ needed) :
    Alike (Worksite.Related (StreetLayer.Tracks f needed)) Eq ((m.renumber f).applyToEdge (f k))
      (m.applyToEdge k) := by
  have hspeed : ∀ speed, Alike (Worksite.Related (StreetLayer.Tracks f needed)) Eq
      (Step.edit (StreetLayer.setSpeed (f k) speed)) (Step.edit (StreetLayer.setSpeed k speed)) :=
    fun speed => Alike.edit (StreetLayer.Tracks.alterEdge hk fun _ => ⟨rfl, rfl, rfl, rfl⟩)
  have hpermissions : ∀ permissions, Alike (Worksite.Related (StreetLayer.Tracks f needed)) Eq
      (Step.edit (StreetLayer.setPermissions (f k) permissions))
      (Step.edit (StreetLayer.setPermissions k permissions)) :=
    fun permissions => Alike.edit (StreetLayer.Tracks.alterEdge hk fun _ => ⟨rfl, rfl, rfl, rfl⟩)
  unfold applyToEdge renumber
  cases m.permissions with
  | none =>
    cases m.speedFactor with
    | none => exact Alike.pure rfl
    | some factor =>
      refine Alike.bind Alike.target fun s t h => ?_
      obtain ⟨edge, hedge⟩ := Option.isSome_iff_exists.1 (h.there k hk)
      simp only [h.edge?_eq, hedge]
      exact Alike.bind (hspeed _) fun _ _ _ => Alike.pure rfl
  | some permissions =>
    cases m.speedFactor with
    | none => exact hpermissions permissions
    | some factor =>
      refine Alike.bind Alike.target fun s t h => ?_
      obtain ⟨edge, hedge⟩ := Option.isSome_iff_exists.1 (h.there k hk)
      simp only [h.edge?_eq, hedge]
      exact Alike.bind (hspeed _) fun _ _ _ => hpermissions permissions

theorem ModifyStreets.alike_apply (m : ModifyStreets) (h : m.found ⊆ needed) :
    Alike (Worksite.Related (StreetLayer.Tracks f needed)) Eq (m.renumber f).apply m.apply :=
  Alike.forM fun _ hk => m.alike_applyToEdge (h hk)

/-! ## Streets that are closed -/

theorem RemoveStreets.applyToEdge_apply (e : EdgeId) (w : Worksite StreetLayer) :
    applyToEdge e w =
      match w.target.edge? e with
      | none => .ok true w
      | some edge => .ok false { w with target := w.target.withoutEdge e edge } := by
  unfold applyToEdge
  rw [bind_of_ok (Step.target_apply w)]
  cases hedge : w.target.edge? e with
  | none => rfl
  | some edge =>
    have hremoved : Step.edit (StreetLayer.removeEdge e) w =
        .ok ⟨⟩ { w with target := w.target.withoutEdge e edge } :=
      Step.edit_of_ok (by rw [StreetLayer.removeEdge_apply, hedge])
    exact bind_of_ok hremoved

theorem RemoveStreets.alike_applyToEdge (k : EdgeId) :
    Alike (Worksite.Related (StreetLayer.Tracks f [])) Eq (applyToEdge (f k)) (applyToEdge k) := by
  intro w w' h
  -- step by step it would be lost that the layer looked at is the one that is changed
  rw [applyToEdge_apply, applyToEdge_apply, h.target.edge?_eq]
  cases w'.target.edge? k with
  | none => exact ⟨rfl, h⟩
  | some edge => exact ⟨rfl, h.target.withoutEdge k edge, h.diagnostics⟩

theorem RemoveStreets.alike_apply (m : RemoveStreets) :
    Alike (Worksite.Related (StreetLayer.Tracks f [])) Eq (m.renumber f).apply m.apply := by
  have hedges : Alike (Worksite.Related (StreetLayer.Tracks f [])) Eq
      ((m.found.map f).mapM applyToEdge) (m.found.mapM applyToEdge) :=
    Alike.mapM fun k _ => alike_applyToEdge k
  refine Alike.bind hedges ?_
  rintro gone _ rfl
  by_cases halready : 0 < gone.count true
  · simp only [if_pos halready]
    exact Alike.warn
  · simp only [if_neg halready]
    exact Alike.pure rfl

/-! ## New streets -/

theorem AddStreets.alike_lay (m : AddStreets) (start finish : VertexId) :
    Alike (Worksite.Related (StreetLayer.Tracks f [])) Eq (m.lay start finish)
      (m.lay start finish) := by
  have hbetween : Alike (Worksite.Related (StreetLayer.Tracks f [])) Eq
      (m.interior.mapM fun c => Step.edit (StreetLayer.addVertex c))
      (m.interior.mapM fun c => Step.edit (StreetLayer.addVertex c)) :=
    Alike.mapM_same fun c _ => Alike.edit (StreetLayer.Tracks.addVertex c)
  refine Alike.bind hbetween ?_
  rintro between _ rfl
  refine Alike.forM_same fun pair _ => ?_
  exact Alike.bind (Alike.edit (StreetLayer.Tracks.addStreet pair.1 pair.2 _ _)) fun _ _ _ =>
    Alike.pure rfl

theorem AddStreets.resolve_eq {s t : StreetLayer} (h : s.Renumbers f t) (m : AddStreets)
    (radius : Float) : m.resolve s radius = m.resolve t radius := by
  unfold resolve snap
  simp only [h.nearestVertex?_eq]

/-! ## All kinds -/

namespace Change

/-- The change with the edges that it found under other numbers. -/
def renumber (f : EdgeId → EdgeId) : Change → Change
  | modifyStreets m => modifyStreets (m.renumber f)
  | removeStreets m => removeStreets (m.renumber f)
  | addStreets m => addStreets m
  | removeTrips m => removeTrips m
  | removeStops m => removeStops m
  | adjustSpeed m => adjustSpeed m
  | adjustDwellTime m => adjustDwellTime m
  | addTrips m => addTrips m

/-- The edges that the change cannot do without. -/
def needs : Change → List EdgeId
  | modifyStreets m => m.found
  | removeStreets _ | addStreets _ | removeTrips _ | removeStops _ | adjustSpeed _
  | adjustDwellTime _ | addTrips _ => []

/-- Changes that need edges come first. -/
theorem needs_of_sortOrder {c : Change} (h : 10 < c.sortOrder) : c.needs = [] := by
  cases c with
  | modifyStreets m => simp [sortOrder] at h
  | _ => rfl

theorem typeName_renumber (c : Change) : (c.renumber f).typeName = c.typeName := by
  cases c <;> rfl

theorem resolve_kind (c : Change) (n : Network) :
    (c.resolve n).1.typeName = c.typeName ∧ (c.resolve n).1.sortOrder = c.sortOrder := by
  cases c <;> exact ⟨rfl, rfl⟩

/-- Applying does alike, as long as the edges are watched that the change needs. -/
theorem alike_apply {scope : LayerScope} (c : Change) (hneeds : c.needs ⊆ needed)
    (hwatched : 10 < c.sortOrder → needed = []) :
    Alike (Worksite.Related (Network.Renumbers f needed scope)) Eq (c.renumber f).apply c.apply := by
  cases c with
  | modifyStreets m => exact Network.alike_onStreet (m.alike_apply hneeds)
  | removeStreets m =>
    rw [hwatched (by simp [sortOrder])]
    exact Network.alike_onStreet m.alike_apply
  | addStreets m =>
    rw [hwatched (by simp [sortOrder])]
    show Alike _ _ (AddStreets.apply m) (AddStreets.apply m)
    unfold AddStreets.apply
    cases m.endPoints with
    | none => exact Alike.fail
    | some ends => exact Network.alike_onStreet (m.alike_lay ends.1 ends.2)
  | removeTrips m | removeStops m | adjustSpeed m | adjustDwellTime m | addTrips m =>
    exact Network.alike_onTransit _

/-! ## Resolving -/

theorem there_of_intersecting {s : StreetLayer} {area : Envelope} {e : EdgeId}
    (h : e ∈ s.edgesIntersecting area) : (s.edge? e).isSome := by
  obtain ⟨⟨e', edge⟩, hmem, hfound⟩ := List.mem_filterMap.1 h
  simp only [Option.ite_none_right_eq_some, Option.some.injEq] at hfound
  obtain ⟨-, rfl⟩ := hfound
  rw [StreetLayer.mem_liveEdges.1 hmem]
  rfl

/-- Resolving against a renumbered network reports the same; if it reports nothing, it finds the same
edges, and they are there. -/
theorem resolve_renumber {scope : LayerScope} {n m : Network}
    (h : n.Renumbers f needed scope m) (c : Change) :
    (c.resolve n).2 = (c.resolve m).2 ∧ ((c.resolve m).2 = [] →
      (c.resolve n).1 = (c.resolve m).1.renumber f ∧
        ∀ k ∈ (c.resolve m).1.needs, (m.street.content.edge? k).isSome) := by
  cases c with
  | modifyStreets x =>
    unfold Change.resolve ModifyStreets.resolve
    by_cases hfaults : x.faults.isEmpty = true
    · simp only [if_pos hfaults, h.street.edgesIntersecting_eq, List.isEmpty_map]
      exact ⟨trivial, fun _ => ⟨rfl, fun k hk => there_of_intersecting hk⟩⟩
    · simp only [if_neg hfaults]
      refine ⟨trivial, fun hnone => absurd ?_ hfaults⟩
      rw [hnone]
      rfl
  | removeStreets x =>
    unfold Change.resolve RemoveStreets.resolve
    by_cases hvalid : x.envelope.isValid = true
    · simp only [if_pos hvalid, h.street.edgesIntersecting_eq, List.isEmpty_map]
      exact ⟨trivial, fun _ => ⟨rfl, List.forall_mem_nil _⟩⟩
    · simp only [if_neg hvalid]
      exact ⟨trivial, nofun⟩
  | addStreets x =>
    unfold Change.resolve
    simp only [AddStreets.resolve_eq h.street, h.params]
    exact ⟨trivial, fun _ => ⟨rfl, List.forall_mem_nil _⟩⟩
  | removeTrips x | removeStops x | adjustSpeed x | adjustDwellTime x | addTrips x =>
    unfold Change.resolve
    simp only [h.transit]
    exact ⟨trivial, fun _ => ⟨rfl, List.forall_mem_nil _⟩⟩

end Change

end Multimodal
