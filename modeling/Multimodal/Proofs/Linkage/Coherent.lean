import Multimodal.Proofs.Linkage.Accurate

/-! # Coherent linkages

Whatever the streets say now, a linkage can agree with itself: every stop was looked for, and the
transfers are those that the links allow.  Linking some stops anew and finding the transfers around
them keeps a linkage coherent, also where the streets have changed around other stops.

* `Linkage.Coherent`: the linkage agrees with itself.
* `coherent_selected`: linking the selected stops keeps it coherent.
* `Linkage.Complete`: what the links and the transfers of a coherent linkage look like, entry by entry.
-/

namespace Multimodal

namespace Linkage

/-! ## The transfers of one stop -/

theorem mem_transfersFrom {l : Linkage} {t : TransitLayer} {radius : Float} {i j : StopIndex}
    {origin : Stop} {d : UInt32} (horigin : t.stops[i]? = some origin)
    (hlinked : (l.link i).vertex?.isSome) :
    ⟨j, d⟩ ∈ l.transfersFrom t radius i ↔
      ∃ stop, t.stops[j]? = some stop ∧ j ≠ i ∧ (l.link j).vertex?.isSome ∧
        stop.coordinate.distance origin.coordinate ≤ radius ∧
        d = millimetres (stop.coordinate.distance origin.coordinate) := by
  obtain ⟨v, hv⟩ := Option.isSome_iff_exists.1 hlinked
  unfold transfersFrom
  simp only [hv, horigin, List.mem_mergeSort, mem_filterMap_zipIdx, Option.ite_none_right_eq_some,
    Option.some.injEq, Transfer.mk.injEq]
  constructor
  · rintro ⟨j, stop, hstop, ⟨hne, hother, hnear⟩, rfl, rfl⟩
    exact ⟨stop, hstop, hne, hother, hnear, rfl⟩
  · rintro ⟨stop, hstop, hne, hother, hnear, rfl⟩
    exact ⟨j, stop, hstop, ⟨hne, hother, hnear⟩, rfl, rfl⟩

theorem transfersFrom_of_no_vertex {l : Linkage} {i : StopIndex} (h : (l.link i).vertex? = none)
    (t : TransitLayer) (radius : Float) : l.transfersFrom t radius i = [] := by
  unfold transfersFrom
  rw [h]

theorem shorter_trans (a b c : Transfer) (hab : shorter a b = true) (hbc : shorter b c = true) :
    shorter a c = true := by
  grind [shorter]

theorem shorter_total (a b : Transfer) : (shorter a b || shorter b a) = true := by
  grind [shorter]

/-- No stop is the target of two transfers from one stop. -/
theorem targets_transfersFrom (l : Linkage) (t : TransitLayer) (radius : Float) (i : StopIndex) :
    (l.transfersFrom t radius i).Pairwise fun a b => a.target ≠ b.target := by
  unfold transfersFrom
  split
  · rename_i v origin _ _
    refine (List.Perm.pairwise_iff (fun h => Ne.symm h) (List.mergeSort_perm _ shorter)).2 ?_
    refine (pairwise_filterMap_zipIdx Transfer.target fun stop j x hx => ?_).imp
      fun h => Nat.ne_of_lt h
    simp only [Option.ite_none_right_eq_some, Option.some.injEq] at hx
    exact congrArg Transfer.target hx.2.symm
  · exact List.Pairwise.nil

theorem sorted_transfersFrom (l : Linkage) (t : TransitLayer) (radius : Float) (i : StopIndex) :
    (l.transfersFrom t radius i).Pairwise fun a b =>
      a.distance < b.distance ∨ a.distance = b.distance ∧ a.target < b.target := by
  have hshorter : (l.transfersFrom t radius i).Pairwise fun a b => shorter a b = true := by
    unfold transfersFrom
    split
    · exact List.pairwise_mergeSort shorter_trans shorter_total _
    · exact List.Pairwise.nil
  refine (hshorter.and (targets_transfersFrom l t radius i)).imp fun ⟨hle, hne⟩ => ?_
  simp only [shorter, Bool.or_eq_true, Bool.and_eq_true, decide_eq_true_eq] at hle
  exact hle.imp_right fun h => ⟨h.1, Nat.lt_of_le_of_ne h.2 hne⟩

/-! ## Coherence -/

/-- Every stop was looked for, a stop without a vertex has no tree, and the transfers are those that
the links allow. -/
structure Coherent (l : Linkage) (t : TransitLayer) (radius : Float) : Prop where
  size : l.stops.size = t.stops.size
  looked : ∀ i < t.stops.size, l.link i ≠ .pending
  bare : ∀ i < t.stops.size, l.link i = .unlinked → (l.access i).tree = []
  transfers : ∀ i < t.stops.size, (l.access i).transfers = l.transfersFrom t radius i

theorem accessOf_ne_pending (street : StreetLayer) (params : LinkageParams) (p : Coordinate) :
    (accessOf street params p).1 ≠ .pending := by
  unfold accessOf
  split <;> simp

theorem tree_of_unlinked {street : StreetLayer} {params : LinkageParams} {p : Coordinate}
    (h : (accessOf street params p).1 = .unlinked) : (accessOf street params p).2 = [] := by
  unfold accessOf at h ⊢
  split at h
  · rfl
  · cases h

theorem Accurate.coherent {l : Linkage} {street : StreetLayer} {t : TransitLayer}
    {params : LinkageParams} (h : l.Accurate street t params) :
    l.Coherent t params.transferRadius where
  size := h.size
  looked i hi := by
    rw [h.link i _ (Array.getElem?_eq_getElem hi)]
    exact accessOf_ne_pending _ _ _
  bare i hi hlink := by
    have hstop := Array.getElem?_eq_getElem hi
    rw [h.link i _ hstop] at hlink
    rw [h.tree i _ hstop, tree_of_unlinked hlink]
  transfers := h.transfers

section Selected

variable {l : Linkage} {street : StreetLayer} {t₀ t : TransitLayer} {params : LinkageParams}
  {selection : StopSelection}

/-- Linking the selected stops looks for every stop and leaves no tree at a stop without a vertex. -/
theorem looked_linkStops (h : l.Coherent t₀ params.transferRadius)
    (ht : Extends t.stops t₀.stops) {i : StopIndex} (hi : i < t.stops.size) :
    (l.linkStops street t params selection).1.link i ≠ .pending ∧
      ((l.linkStops street t params selection).1.link i = .unlinked →
        ((l.linkStops street t params selection).1.access i).tree = []) := by
  have hstop := Array.getElem?_eq_getElem hi
  unfold link
  rw [access_linkStops hstop]
  cases hsel : l.isSelected selection i t.stops[i].coordinate with
  | true =>
    exact ⟨accessOf_ne_pending _ _ _, fun hlink => tree_of_unlinked hlink⟩
  | false =>
    have hstop₀ := old_of_not_selected h.size ht hstop hsel
    have hi₀ := (Array.getElem?_eq_some_iff.1 hstop₀).1
    exact ⟨h.looked i hi₀, h.bare i hi₀⟩

/-- Linking the selected stops and finding the transfers around them keeps a linkage coherent, whatever
happened to the streets. -/
theorem coherent_selected (h : l.Coherent t₀ params.transferRadius)
    (ht : Extends t.stops t₀.stops) :
    (((l.linkStops street t params selection).1.findTransfers t params.transferRadius
      (l.linkStops street t params selection).2).1).Coherent t params.transferRadius := by
  have hsize : (l.linkStops street t params selection).1.stops.size = t.stops.size :=
    size_linkStops
  have hlink := link_recompute (l.linkStops street t params selection).1 t params.transferRadius
    (affected t params.transferRadius (l.linkStops street t params selection).2).toList
  refine ⟨(size_recompute _ _ _ _).trans hsize, fun i hi => ?_, fun i hi hunlinked => ?_,
    fun i hi => ?_⟩
  · rw [findTransfers, hlink]
    exact (looked_linkStops h ht hi).1
  · rw [findTransfers, hlink] at hunlinked
    have hbare := (looked_linkStops h ht hi).2 hunlinked
    rw [findTransfers, access_recompute (by rwa [hsize]), ← hbare]
    split <;> rfl
  · rw [findTransfers, transfersFrom_congr hlink, access_recompute (by rwa [hsize])]
    by_cases hmem : i ∈ (affected t params.transferRadius
      (l.linkStops street t params selection).2).toList
    · rw [if_pos hmem]
    · rw [if_neg hmem]
      exact transfers_of_not_affected h.size ht h.transfers hi hmem

end Selected

/-! ## Entry by entry -/

/-- The links and the transfers of a linkage that covers every stop.  The transfers of a linked stop
lead to every other linked stop within the radius, nearest first, and there are no others. -/
structure Complete (l : Linkage) (t : TransitLayer) (radius : Float) : Prop where
  covers : l.stops.size = t.stops.size
  looked : ∀ i < t.stops.size, l.link i ≠ .pending
  bare : ∀ i, l.link i = .unlinked → (l.access i).tree = []
  none_of_unlinked : ∀ i, (l.link i).vertex? = none → l.transfers i = []
  mem_iff : ∀ (i j : StopIndex) (origin : Stop) (d : UInt32), t.stops[i]? = some origin →
    (l.link i).vertex?.isSome → (⟨j, d⟩ ∈ l.transfers i ↔
      ∃ stop, t.stops[j]? = some stop ∧ j ≠ i ∧ (l.link j).vertex?.isSome ∧
        stop.coordinate.distance origin.coordinate ≤ radius ∧
        d = millimetres (stop.coordinate.distance origin.coordinate))
  sorted : ∀ i, (l.transfers i).Pairwise fun a b =>
    a.distance < b.distance ∨ a.distance = b.distance ∧ a.target < b.target
  symmetric : ∀ i j d, ⟨j, d⟩ ∈ l.transfers i → ⟨i, d⟩ ∈ l.transfers j
  irreflexive : ∀ i, ∀ x ∈ l.transfers i, x.target ≠ i
  linked : ∀ i, ∀ x ∈ l.transfers i,
    (l.link i).vertex?.isSome ∧ (l.link x.target).vertex?.isSome

section Complete

variable {l : Linkage} {t : TransitLayer} {radius : Float}

/-- The transfers of a coherent linkage are those that the links allow, also of a stop that is not
there. -/
theorem Coherent.transfers_eq (h : l.Coherent t radius) (i : StopIndex) :
    l.transfers i = l.transfersFrom t radius i := by
  by_cases hi : i < t.stops.size
  · exact h.transfers i hi
  · have hsize : l.stops.size ≤ i := Nat.le_trans (Nat.le_of_eq h.size) (Nat.not_lt.1 hi)
    have hnone : (l.link i).vertex? = none := by
      rw [link_of_size_le hsize]
      rfl
    rw [transfersFrom_of_no_vertex hnone]
    show (l.access i).transfers = []
    rw [access_of_size_le hsize]

theorem Coherent.lt_of_linked (h : l.Coherent t radius) {i : StopIndex}
    (hlinked : (l.link i).vertex?.isSome) : i < t.stops.size := by
  by_contra hi
  have hsize : l.stops.size ≤ i := Nat.le_trans (Nat.le_of_eq h.size) (Nat.not_lt.1 hi)
  rw [link_of_size_le hsize] at hlinked
  cases hlinked

/-- A transfer connects two different linked stops within the radius, and its length is their
distance. -/
theorem Coherent.ends (h : l.Coherent t radius) {i j : StopIndex} {d : UInt32}
    (hmem : ⟨j, d⟩ ∈ l.transfers i) :
    ∃ origin stop, t.stops[i]? = some origin ∧ t.stops[j]? = some stop ∧ j ≠ i ∧
      (l.link i).vertex?.isSome ∧ (l.link j).vertex?.isSome ∧
      stop.coordinate.distance origin.coordinate ≤ radius ∧
      d = millimetres (stop.coordinate.distance origin.coordinate) := by
  rw [h.transfers_eq] at hmem
  have hlinked : (l.link i).vertex?.isSome := by
    cases hv : (l.link i).vertex? with
    | some v => rfl
    | none =>
      rw [transfersFrom_of_no_vertex hv] at hmem
      cases hmem
  have horigin := Array.getElem?_eq_getElem (h.lt_of_linked hlinked)
  obtain ⟨stop, hstop, hne, hother, hnear, hd⟩ := (mem_transfersFrom horigin hlinked).1 hmem
  exact ⟨_, stop, horigin, hstop, hne, hlinked, hother, hnear, hd⟩

theorem Coherent.complete (h : l.Coherent t radius) : l.Complete t radius where
  covers := h.size
  looked := h.looked
  bare i hlink := by
    by_cases hi : i < t.stops.size
    · exact h.bare i hi hlink
    · rw [access_of_size_le (Nat.le_trans (Nat.le_of_eq h.size) (Nat.not_lt.1 hi))]
  none_of_unlinked i hnone := by
    rw [h.transfers_eq, transfersFrom_of_no_vertex hnone]
  mem_iff i j origin d horigin hlinked := by
    rw [h.transfers_eq]
    exact mem_transfersFrom horigin hlinked
  sorted i := by
    rw [h.transfers_eq]
    exact sorted_transfersFrom l t radius i
  symmetric i j d hmem := by
    obtain ⟨origin, stop, horigin, hstop, hne, hlinked, hother, hnear, hd⟩ := h.ends hmem
    rw [h.transfers_eq, mem_transfersFrom hstop hother]
    rw [Coordinate.distance_comm] at hnear hd
    exact ⟨origin, horigin, hne.symm, hlinked, hnear, hd⟩
  irreflexive i x hmem := by
    obtain ⟨-, -, -, -, hne, -⟩ := h.ends (j := x.target) (d := x.distance) hmem
    exact hne
  linked i x hmem := by
    obtain ⟨-, -, -, -, -, hlinked, hother, -⟩ := h.ends (j := x.target) (d := x.distance) hmem
    exact ⟨hlinked, hother⟩

end Complete

end Linkage

end Multimodal
