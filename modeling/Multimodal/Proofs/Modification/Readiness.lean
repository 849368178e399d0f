import Multimodal.Proofs.Modification.AlteredStreets
import Multimodal.Proofs.Modification.Layers
import Multimodal.Proofs.Modification.NewStreets
import Multimodal.Proofs.Modification.Renumbering

/-! # Modifications of the streets that do not fail

Every modification is resolved against the layer as it came and meets it changed by others.  Vertices
are never taken away, and edges only by a kind that comes after the one that cannot do without them.
So what a modification of the streets found is still there when it is applied, and it goes through.

* `StreetLayer.Offers`: a layer still has the vertices of another one, and early on its edges.
* `Change.FoundIn`: what the change found is in a layer; `Change.foundIn_resolve` is why.
* `Change.ensures_ready`: what is on offer stays, and a change that finds it there does not fail.
-/

namespace Multimodal

/-! ## What a layer offers -/

/-- The layer has the vertices that the first one had and, while it is early, the edges too. -/
structure StreetLayer.Offers (first : StreetLayer) (early : Prop) (s : StreetLayer) : Prop where
  vertices : first.vertices.size ≤ s.vertices.size
  edges : early → ∀ e, (first.edge? e).isSome = true → (s.edge? e).isSome = true

namespace StreetLayer

variable {first s : StreetLayer} {early : Prop}

theorem Offers.refl (s : StreetLayer) (early : Prop) : s.Offers early s :=
  ⟨Nat.le_refl _, fun _ _ he => he⟩

/-- When it is late only the vertices count, and nothing takes vertices away. -/
theorem stable_offers (hlate : ¬early) : Stable (first.Offers early) where
  vertex s c h := by
    refine ⟨?_, fun hearly => absurd hearly hlate⟩
    have hsize : (s.withVertex c).vertices.size = s.vertices.size + 1 := Array.size_push _
    have hle := h.vertices
    omega
  edge _ _ h _ _ _ := ⟨h.vertices, fun hearly => absurd hearly hlate⟩
  removal _ _ _ h _ := ⟨h.vertices, fun hearly => absurd hearly hlate⟩
  alteration _ _ _ _ h _ _ := ⟨h.vertices, fun hearly => absurd hearly hlate⟩

/-- Alterations leave every edge on offer. -/
theorem Offers.foldl_withAltered (h : first.Offers early s) (es : List EdgeId)
    {f : StreetEdge → StreetEdge} (hf : ∀ x : StreetEdge, (f x).SameCourse x) :
    first.Offers early (es.foldl (fun s e => s.withAltered e f) s) := by
  induction es generalizing s with
  | nil => exact h
  | cons e es ih =>
    refine ih ⟨h.vertices, fun hearly k hk => ?_⟩
    rw [isSome_edge?_withAltered s e k hf]
    exact h.edges hearly k hk

/-! ## Other speeds and permissions -/

/-- Early on the streets that the first layer had can be given other speeds and permissions. -/
theorem ensures_modifyStreets (m : ModifyStreets)
    (hfound : ∀ e ∈ m.found, (first.edge? e).isSome = true) :
    Ensures (fun w => first.Offers early w.target) m.apply (fun _ w => first.Offers early w.target)
      fun _ _ => ¬early := by
  by_cases hearly : early
  · by_cases hsome : m.speedFactor ≠ none ∨ m.permissions ≠ none
    · intro w hw
      have happly := m.forM_applyToEdge hsome
        (fun e he => hw.edges hearly e (hfound e he)) w.diagnostics
      unfold ModifyStreets.apply
      rw [happly]
      exact hw.foldl_withAltered m.found m.sameCourse_revised
    · obtain ⟨hspeed, hpermissions⟩ := not_or.1 hsome
      refine Ensures.forM fun e _ => ?_
      unfold ModifyStreets.applyToEdge
      rw [not_not.1 hspeed, not_not.1 hpermissions]
      exact Ensures.pure fun _ hw => hw
  · -- later an edge can have gone, but there are no fewer vertices
    exact ((stable_offers hearly).modifyStreets m).mono (fun _ hw => hw) (fun _ _ hw => hw)
      fun _ _ _ => hearly

/-! ## Closed streets -/

/-- Removing streets does not fail at all: an edge that is gone is passed over. -/
theorem ensures_removeStreets (hlate : ¬early) (m : RemoveStreets) :
    Ensures (fun w => first.Offers early w.target) m.apply (fun _ w => first.Offers early w.target)
      fun _ _ => False := by
  have hedges : Ensures (fun w : Worksite StreetLayer => first.Offers early w.target)
      (m.found.mapM RemoveStreets.applyToEdge) (fun _ w => first.Offers early w.target)
      fun _ _ => False := by
    refine Ensures.mapM fun e _ w hw => ?_
    rw [RemoveStreets.applyToEdge_apply]
    cases hedge : w.target.edge? e with
    | none => exact hw
    | some edge => exact (stable_offers hlate).removal w.target e edge hw hedge
  refine Ensures.bind hedges fun gone => ?_
  by_cases halready : 0 < gone.count true
  · simp only [if_pos halready]
    exact Ensures.warn
  · simp only [if_neg halready]
    exact Ensures.pure fun _ hw => hw

/-! ## New streets -/

/-- A street between vertices of the first layer can be laid. -/
theorem ensures_lay (hlate : ¬early) (m : AddStreets) {start finish : VertexId}
    (hstart : start < first.vertices.size) (hfinish : finish < first.vertices.size) :
    Ensures (fun w => first.Offers early w.target) (m.lay start finish)
      (fun _ w => first.Offers early w.target) fun _ _ => False := by
  intro w hw
  have hlay := m.lay_apply (Nat.lt_of_lt_of_le hstart hw.vertices)
    (Nat.lt_of_lt_of_le hfinish hw.vertices) w.diagnostics
  have hkept := (stable_offers hlate).lay m start finish w hw
  rw [hlay] at hkept ⊢
  exact hkept

end StreetLayer

/-! ## All kinds -/

namespace Change

/-- What the change found and cannot do without is in the layer. -/
def FoundIn (first : StreetLayer) : Change → Prop
  | modifyStreets m => ∀ e ∈ m.found, (first.edge? e).isSome = true
  | addStreets m =>
    ∃ start finish, m.endPoints = some (start, finish) ∧ start < first.vertices.size ∧
      finish < first.vertices.size
  | removeStreets _ | removeTrips _ | removeStops _ | adjustSpeed _ | adjustDwellTime _
  | addTrips _ => True

/-- A change that resolves found something in the layer that it was resolved against. -/
theorem foundIn_resolve (c : Change) (n : Network) (h : (c.resolve n).2 = []) :
    (c.resolve n).1.FoundIn n.street.content := by
  cases c with
  | modifyStreets m =>
    obtain ⟨hfound, -⟩ := ModifyStreets.found_of_resolve h
    show ∀ e ∈ (m.resolve n.street.content).1.found, _
    rw [hfound]
    exact fun e he => there_of_intersecting he
  | addStreets m =>
    obtain ⟨start, finish, hsnaps⟩ := AddStreets.snaps_of_resolve h
    obtain ⟨first, -, hstart⟩ := hsnaps.start
    obtain ⟨last, -, hfinish⟩ := hsnaps.finish
    show ∃ start finish, (m.resolve n.street.content n.params.linkRadius).1.endPoints = _ ∧ _
    rw [AddStreets.resolve_of_snaps hsnaps]
    exact ⟨start, finish, rfl, AddStreets.lt_of_closest hstart, AddStreets.lt_of_closest hfinish⟩
  | _ => trivial

end Change

/-- The streets are the holder's own and offer what the first layer had. -/
structure Network.ReadyFor (first : StreetLayer) (early : Prop) (n : Network) : Prop where
  own : n.street.shared = false
  offers : first.Offers early n.street.content

theorem Step.ensures_onStreet {first : StreetLayer} {early : Prop} {E : Prop}
    {step : Step StreetLayer Unit}
    (h : Ensures (fun w => first.Offers early w.target) step
      (fun _ w => first.Offers early w.target) fun _ _ => E) :
    Ensures (fun w => w.target.ReadyFor first early) (onStreet step)
      (fun _ w => w.target.ReadyFor first early) fun _ _ => E := by
  intro w hw
  have hstep := h ⟨w.target.street.content, w.diagnostics⟩ hw.offers
  unfold onStreet
  rw [hw.own]
  simp only [Bool.false_eq_true, if_false]
  cases hx : step ⟨w.target.street.content, w.diagnostics⟩ with
  | ok a s =>
    rw [hx] at hstep
    exact ⟨rfl, hstep⟩
  | error f s =>
    rw [hx] at hstep
    exact hstep

/-- A change leaves on offer what is on offer, the edges only while no later kind has come.  A change
of the streets that found what it needs fails only if it counts on edges when it is late. -/
theorem Change.ensures_ready (c : Change) {first : StreetLayer} {early : Prop}
    (hfound : c.FoundIn first) (hearly : early → c.sortOrder ≤ 10) :
    Ensures (fun w => w.target.ReadyFor first early) c.apply
      (fun _ w => w.target.ReadyFor first early)
      fun _ _ => c.isStreet = true → c.sortOrder ≤ 10 ∧ ¬early := by
  -- the kinds of the timetable leave the streets as they are
  have hother : c.isStreet = false → Ensures (fun w => w.target.ReadyFor first early) c.apply
      (fun _ w => w.target.ReadyFor first early)
      fun _ _ => c.isStreet = true → c.sortOrder ≤ 10 ∧ ¬early := by
    intro hc w hw
    have hkept := c.keeps_layer (w.target.layer true) w (by rw [hc]; rfl)
    cases hx : c.apply w with
    | ok a w' =>
      rw [hx, hc] at hkept
      have hstreet : w'.target.street = w.target.street := Sum.inl.inj hkept
      exact ⟨hstreet ▸ hw.own, hstreet ▸ hw.offers⟩
    | error f w' =>
      intro hc'
      rw [hc] at hc'
      cases hc'
  cases c with
  | modifyStreets m =>
    exact (Step.ensures_onStreet (StreetLayer.ensures_modifyStreets m hfound)).mono
      (fun _ hw => hw) (fun _ _ hw => hw) fun _ _ hlate _ => ⟨Int.le_refl 10, hlate⟩
  | removeStreets m =>
    have hlate : ¬early := fun h => absurd (hearly h) (by simp [sortOrder])
    exact (Step.ensures_onStreet (StreetLayer.ensures_removeStreets hlate m)).mono
      (fun _ hw => hw) (fun _ _ hw => hw) fun _ _ hfalse => hfalse.elim
  | addStreets m =>
    have hlate : ¬early := fun h => absurd (hearly h) (by simp [sortOrder])
    obtain ⟨start, finish, hends, hstart, hfinish⟩ := hfound
    show Ensures _ (AddStreets.apply m) _ _
    unfold AddStreets.apply
    rw [hends]
    exact (Step.ensures_onStreet (StreetLayer.ensures_lay hlate m hstart hfinish)).mono
      (fun _ hw => hw) (fun _ _ hw => hw) fun _ _ hfalse => hfalse.elim
  | removeTrips m | removeStops m | adjustSpeed m | adjustDwellTime m | addTrips m =>
    exact hother rfl

end Multimodal
