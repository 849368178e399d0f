import Multimodal.Linkage.Transfer
import Multimodal.Proofs.Geo.Distance
import Multimodal.Proofs.Street.Changes
import Multimodal.Sample

/-! # Finding transfers

The transfers of a stop follow from the links as they are.  So after the links of some stops changed,
it is enough to find transfers anew at these stops and within the radius of one of them: distances are
symmetric, and a stop further away has none of them in reach.

* `access_recompute`: what finding transfers anew at some stops does to one stop.
* `Linkage.ChangedAt`: links changed at some stops only, and stops that are new are among these.
* `access_findTransfers_eq_findAllTransfers`: finding transfers around the changed stops leaves what
  finding them everywhere leaves.
-/

namespace Multimodal

namespace Linkage

/-! ## Stops that are not covered -/

theorem access_of_size_le {l : Linkage} {i : StopIndex} (h : l.stops.size ≤ i) :
    l.access i = {} := by
  unfold access
  rw [Array.getElem?_eq_none h]
  rfl

theorem link_of_size_le {l : Linkage} {i : StopIndex} (h : l.stops.size ≤ i) :
    l.link i = .pending := by
  unfold link
  rw [access_of_size_le h]

/-! ## Transfers anew at some stops -/

/-- The transfers of a stop depend on which stops have a vertex and on nothing else. -/
theorem transfersFrom_congr {l l' : Linkage} (h : ∀ i, l'.link i = l.link i) (t : TransitLayer)
    (radius : Float) (s : StopIndex) : l'.transfersFrom t radius s = l.transfersFrom t radius s := by
  unfold transfersFrom
  simp only [h]

/-- The linkage with the transfers of one stop found anew. -/
def recomputeAt (t : TransitLayer) (radius : Float) (l : Linkage) (s : StopIndex) : Linkage :=
  ⟨l.stops.modify s fun access => { access with transfers := l.transfersFrom t radius s }⟩

theorem recompute_cons (l : Linkage) (t : TransitLayer) (radius : Float) (s : StopIndex)
    (ss : List StopIndex) :
    l.recompute t radius (s :: ss) = (l.recomputeAt t radius s).recompute t radius ss := rfl

theorem access_recomputeAt {t : TransitLayer} {radius : Float} {l : Linkage} {s i : StopIndex}
    (hi : i < l.stops.size) :
    (l.recomputeAt t radius s).access i =
      if s = i then { l.access i with transfers := l.transfersFrom t radius i }
      else l.access i := by
  show ((l.stops.modify s _)[i]?).getD {} = _
  rw [Array.getElem?_modify]
  by_cases hs : s = i
  · subst hs
    rw [if_pos rfl, if_pos rfl]
    unfold access
    rw [Array.getElem?_eq_getElem hi]
    rfl
  · rw [if_neg hs, if_neg hs]
    rfl

theorem link_recomputeAt (t : TransitLayer) (radius : Float) (l : Linkage) (s i : StopIndex) :
    (l.recomputeAt t radius s).link i = l.link i := by
  show (((l.stops.modify s _)[i]?).getD {}).link = ((l.stops[i]?).getD {}).link
  rw [Array.getElem?_modify]
  split
  · cases l.stops[i]? with
    | none => rfl
    | some access => rfl
  · rfl

theorem size_recompute (l : Linkage) (t : TransitLayer) (radius : Float) (ss : List StopIndex) :
    (l.recompute t radius ss).stops.size = l.stops.size := by
  induction ss generalizing l with
  | nil => rfl
  | cons s ss ih =>
    rw [recompute_cons, ih]
    exact Array.size_modify

theorem link_recompute (l : Linkage) (t : TransitLayer) (radius : Float) (ss : List StopIndex)
    (i : StopIndex) : (l.recompute t radius ss).link i = l.link i := by
  induction ss generalizing l with
  | nil => rfl
  | cons s ss ih => rw [recompute_cons, ih, link_recomputeAt]

/-- Finding transfers anew leaves links and trees alone and reads every stop's transfers off the
links as they are. -/
theorem access_recompute {t : TransitLayer} {radius : Float} {l : Linkage} {ss : List StopIndex}
    {i : StopIndex} (hi : i < l.stops.size) :
    (l.recompute t radius ss).access i =
      if i ∈ ss then { l.access i with transfers := l.transfersFrom t radius i }
      else l.access i := by
  induction ss generalizing l with
  | nil => rfl
  | cons s ss ih =>
    have hi' : i < (l.recomputeAt t radius s).stops.size := by
      show i < (l.stops.modify s _).size
      rwa [Array.size_modify]
    rw [recompute_cons, ih hi', access_recomputeAt hi,
      transfersFrom_congr (link_recomputeAt t radius l s)]
    by_cases hs : s = i
    · rw [if_pos hs, if_pos (List.mem_cons.2 (.inl hs.symm))]
      exact ite_self _
    · rw [if_neg hs]
      have hmem : i ∈ s :: ss ↔ i ∈ ss := by
        rw [List.mem_cons]
        exact or_iff_right fun h => hs h.symm
      simp only [hmem]

/-! ## Stops that may be affected -/

theorem mem_around {t : TransitLayer} {radius : Float} {i d : StopIndex} {origin : Stop}
    (hd : t.stops[d]? = some origin) :
    i ∈ around t radius d ↔
      ∃ stop, t.stops[i]? = some stop ∧ stop.coordinate.distance origin.coordinate ≤ radius := by
  unfold around
  rw [hd]
  simp only [mem_filterMap_zipIdx, Option.ite_none_right_eq_some, Option.some.injEq]
  constructor
  · rintro ⟨i, stop, hstop, hnear, rfl⟩
    exact ⟨stop, hstop, hnear⟩
  · rintro ⟨stop, hstop, hnear⟩
    exact ⟨i, stop, hstop, hnear, rfl⟩

theorem mem_affected {t : TransitLayer} {radius : Float} {dirty : List StopIndex}
    {i : StopIndex} :
    i ∈ (affected t radius dirty).toList ↔ i ∈ dirty ∨ ∃ d ∈ dirty, i ∈ around t radius d := by
  unfold affected
  rw [← IdSet.mem_iff, IdSet.mem_ofList, List.mem_append, List.mem_flatMap]

/-- The transfers of a stop stay the same if it and all stops near it have a vertex just as before,
and no stop near it is new. -/
theorem transfersFrom_of_extends {l l₀ : Linkage} {t t₀ : TransitLayer} {radius : Float}
    {s : StopIndex} {origin : Stop} (ht : Extends t.stops t₀.stops)
    (hs : t₀.stops[s]? = some origin) (hlink : l.link s = l₀.link s)
    (hnear : ∀ (i : StopIndex) (stop : Stop), t.stops[i]? = some stop →
      stop.coordinate.distance origin.coordinate ≤ radius →
        i < t₀.stops.size ∧ l.link i = l₀.link i) :
    l.transfersFrom t radius s = l₀.transfersFrom t₀ radius s := by
  have hs' : t.stops[s]? = some origin := by
    rw [ht.getElem? (Array.getElem?_eq_some_iff.1 hs).1]
    exact hs
  unfold transfersFrom
  rw [hlink, hs, hs']
  cases (l₀.link s).vertex? with
  | none => rfl
  | some v =>
    refine congrArg (fun found : List Transfer => found.mergeSort shorter) ?_
    refine filterMap_zipIdx_of_extends ht fun stop i hi => ?_
    simp only
    by_cases hclose : stop.coordinate.distance origin.coordinate ≤ radius
    · obtain ⟨hold, hsame⟩ := hnear i stop hi hclose
      rw [if_pos hold, hsame]
    · simp only [hclose, and_false, if_false, ite_self]

/-! ## Changed links -/

/-- Since an earlier moment, stops were only added, and no link changed but at the dirty stops, which
the added ones are among. -/
structure ChangedAt (l l₀ : Linkage) (t t₀ : TransitLayer) (dirty : List StopIndex) : Prop where
  added : Extends t.stops t₀.stops
  dirty_of_new : ∀ i < t.stops.size, t₀.stops.size ≤ i → i ∈ dirty
  link : ∀ i < t₀.stops.size, i ∉ dirty → l.link i = l₀.link i

section Changed

variable {l l₀ : Linkage} {t t₀ : TransitLayer} {dirty : List StopIndex}

theorem ChangedAt.old_of_clean (h : l.ChangedAt l₀ t t₀ dirty) {i : StopIndex}
    (hi : i < t.stops.size) (hclean : i ∉ dirty) : i < t₀.stops.size := by
  by_contra hnew
  exact hclean (h.dirty_of_new i hi (Nat.not_lt.1 hnew))

/-- The transfers of a stop that no dirty stop is near are those of the earlier moment. -/
theorem ChangedAt.transfersFrom_eq (h : l.ChangedAt l₀ t t₀ dirty) {radius : Float}
    {i : StopIndex} (hi : i < t.stops.size) (hmem : i ∉ (affected t radius dirty).toList) :
    l.transfersFrom t radius i = l₀.transfersFrom t₀ radius i := by
  rw [mem_affected, not_or, not_exists] at hmem
  obtain ⟨hclean, haround⟩ := hmem
  have hi₀ := h.old_of_clean hi hclean
  have hstop : t.stops[i]? = some t.stops[i] := Array.getElem?_eq_getElem hi
  have hstop₀ : t₀.stops[i]? = some t.stops[i] := (h.added.getElem? hi₀).symm.trans hstop
  refine transfersFrom_of_extends h.added hstop₀ (h.link i hi₀ hclean) ?_
  intro j other hother hnear
  have hj : j < t.stops.size := (Array.getElem?_eq_some_iff.1 hother).1
  -- distances are symmetric, so this stop would be around the other one if that were dirty
  have hcleanj : j ∉ dirty := by
    intro hdirty
    refine haround j ⟨hdirty, (mem_around hother).2 ⟨_, hstop, ?_⟩⟩
    rwa [Coordinate.distance_comm]
  have hj₀ := h.old_of_clean hj hcleanj
  exact ⟨hj₀, h.link j hj₀ hcleanj⟩

theorem access_findAllTransfers {radius : Float} {i : StopIndex} (hi : i < t.stops.size)
    (hcovered : i < l.stops.size) :
    (l.findAllTransfers t radius).access i =
      { l.access i with transfers := l.transfersFrom t radius i } := by
  rw [findAllTransfers, access_recompute hcovered, if_pos (List.mem_range.2 hi)]

/-- If every stop had the transfers that the links of an earlier moment allow, then finding transfers
around the stops whose links changed since then leaves every stop what finding all transfers leaves
it. -/
theorem access_findTransfers_eq_findAllTransfers (h : l.ChangedAt l₀ t t₀ dirty)
    {radius : Float} (htransfers : ∀ i < t₀.stops.size,
      l.transfers i = l₀.transfersFrom t₀ radius i) {i : StopIndex} (hi : i < t.stops.size) :
    (l.findTransfers t radius dirty).1.access i = (l.findAllTransfers t radius).access i := by
  by_cases hcovered : i < l.stops.size
  · rw [findTransfers, access_recompute hcovered, access_findAllTransfers hi hcovered]
    by_cases hmem : i ∈ (affected t radius dirty).toList
    · rw [if_pos hmem]
    · rw [if_neg hmem]
      have hclean : i ∉ dirty := fun hdirty => hmem (mem_affected.2 (.inl hdirty))
      have hkept : (l.access i).transfers = l.transfersFrom t radius i := by
        rw [h.transfersFrom_eq hi hmem]
        exact htransfers i (h.old_of_clean hi hclean)
      rw [← hkept]
  · have hsize : l.stops.size ≤ i := Nat.not_lt.1 hcovered
    rw [access_of_size_le (by rwa [findTransfers, size_recompute]),
      access_of_size_le (by rwa [findAllTransfers, size_recompute])]

end Changed

end Linkage

namespace Sample

/-- The stops of the two lines, each with a vertex of its own. -/
def ownVertices : Linkage := ⟨Array.ofFn fun i : Fin 6 => { link := .linked i }⟩

/-- The two lines and one more stop between "a" and "b". -/
def moreStops : TransitLayer :=
  { twoLines with stops := twoLines.stops.push ⟨"h", "Stop h", crossing 0 1⟩ }

/-- Stop "b" lost its vertex and the new stop has one; the transfers are still the old ones. -/
def otherVertices : Linkage :=
  ⟨(Array.ofFn fun i : Fin 6 =>
      { link := if i = 1 then .unlinked else .linked i
        transfers := ownVertices.transfersFrom twoLines 1000.0 i }).push { link := .linked 6 }⟩

theorem changedAt_otherVertices :
    otherVertices.ChangedAt ownVertices moreStops twoLines [6, 1, 6] where
  added := (Extends.refl _).push _
  dirty_of_new := by decide +kernel
  link := by decide +kernel

theorem size_twoLines : twoLines.stops.size = 6 := by decide +kernel

/-- The old transfers are those of the old vertices, and so stop "a", which is not given, gets what it
gets when all transfers are found. -/
theorem transfers_otherVertices :
    otherVertices.ChangedAt ownVertices moreStops twoLines [6, 1, 6] ∧
      (∀ i < twoLines.stops.size,
        otherVertices.transfers i = ownVertices.transfersFrom twoLines 1000.0 i) ∧
      (otherVertices.findTransfers moreStops 1000.0 [6, 1, 6]).1.access 0 =
        (otherVertices.findAllTransfers moreStops 1000.0).access 0 := by
  have htransfers : ∀ i < twoLines.stops.size,
      otherVertices.transfers i = ownVertices.transfersFrom twoLines 1000.0 i := by
    intro i hi
    rw [size_twoLines] at hi
    interval_cases i <;> rfl
  refine ⟨changedAt_otherVertices, htransfers, ?_⟩
  exact Linkage.access_findTransfers_eq_findAllTransfers changedAt_otherVertices htransfers
    (by decide +kernel)

end Sample

end Multimodal
