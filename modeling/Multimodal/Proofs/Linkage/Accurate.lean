import Multimodal.Proofs.Linkage.Transfers

/-! # Accurate linkages

A linkage is accurate if it says of every stop what the layers say of it.  Linking some stops anew and
finding the transfers around them makes an accurate linkage accurate again, provided that the streets
around all other stops are what they were and the stops that are new are among the linked ones.

* `Linkage.Accurate`: the linkage says what the layers say, and so there is one such linkage only.
* `accurate_all`: linking every stop and finding every transfer makes a linkage accurate.
* `accurate_selected`: so does linking the selected stops, if the rest was accurate before.
-/

namespace Multimodal

theorem StopAccess.eq_of_fields {a b : StopAccess} (hlink : a.link = b.link)
    (htree : a.tree = b.tree) (htransfers : a.transfers = b.transfers) : a = b := by
  obtain ⟨link, tree, transfers⟩ := a
  obtain ⟨link', tree', transfers'⟩ := b
  cases hlink
  cases htree
  cases htransfers
  rfl

/-- What linking anew records for a stop: the link and the tree of its place. -/
def StopAccess.atPlace (a : StopAccess) (street : StreetLayer) (params : LinkageParams)
    (p : Coordinate) : StopAccess :=
  { a with link := (accessOf street params p).1, tree := (accessOf street params p).2 }

namespace Linkage

/-! ## Linking stops -/

theorem size_relink (street : StreetLayer) (t : TransitLayer) (params : LinkageParams)
    (l : Linkage) (s : StopIndex) : (l.relink street t params s).stops.size = l.stops.size := by
  unfold relink
  cases t.stops[s]? with
  | none => rfl
  | some stop => exact Array.size_modify

theorem size_foldl_relink (street : StreetLayer) (t : TransitLayer) (params : LinkageParams)
    (l : Linkage) (ss : List StopIndex) :
    (ss.foldl (relink street t params) l).stops.size = l.stops.size := by
  induction ss generalizing l with
  | nil => rfl
  | cons s ss ih =>
    rw [List.foldl_cons, ih]
    exact size_relink street t params l s

theorem access_relink {street : StreetLayer} {t : TransitLayer} {params : LinkageParams}
    {l : Linkage} {s i : StopIndex} {stop : Stop} (hi : i < l.stops.size)
    (hstop : t.stops[i]? = some stop) :
    (l.relink street t params s).access i =
      if s = i then (l.access i).atPlace street params stop.coordinate
      else l.access i := by
  unfold relink
  by_cases hs : s = i
  · subst hs
    rw [if_pos rfl, hstop]
    show ((l.stops.modify s _)[s]?).getD {} = ((l.stops[s]?).getD {}).atPlace _ _ _
    rw [Array.getElem?_modify, if_pos rfl, Array.getElem?_eq_getElem hi]
    rfl
  · rw [if_neg hs]
    cases t.stops[s]? with
    | none => rfl
    | some other =>
      show ((l.stops.modify s _)[i]?).getD {} = (l.stops[i]?).getD {}
      rw [Array.getElem?_modify, if_neg hs]

theorem access_foldl_relink {street : StreetLayer} {t : TransitLayer} {params : LinkageParams}
    {l : Linkage} {ss : List StopIndex} {i : StopIndex} {stop : Stop} (hi : i < l.stops.size)
    (hstop : t.stops[i]? = some stop) :
    (ss.foldl (relink street t params) l).access i =
      if i ∈ ss then (l.access i).atPlace street params stop.coordinate
      else l.access i := by
  induction ss generalizing l with
  | nil => rfl
  | cons s ss ih =>
    have hi' : i < (l.relink street t params s).stops.size := by rwa [size_relink]
    rw [List.foldl_cons, ih hi', access_relink hi hstop]
    by_cases hs : s = i
    · rw [if_pos hs, if_pos (List.mem_cons.2 (.inl hs.symm))]
      -- linking a stop twice is linking it once
      exact ite_self _
    · rw [if_neg hs]
      have hmem : i ∈ s :: ss ↔ i ∈ ss := by
        rw [List.mem_cons]
        exact or_iff_right fun h => hs h.symm
      simp only [hmem]

theorem size_resize (l : Linkage) (n : Nat) : (l.resize n).stops.size = n := by
  unfold resize
  show (l.stops.take n ++ Array.replicate (n - l.stops.size) _).size = n
  rw [Array.size_append, Array.take_eq_extract, Array.size_extract, Array.size_replicate]
  omega

theorem access_resize {l : Linkage} {n i : Nat} (hi : i < n) :
    (l.resize n).access i = l.access i := by
  show ((l.stops.take n ++ Array.replicate (n - l.stops.size) ({} : StopAccess))[i]?).getD {} =
    (l.stops[i]?).getD {}
  by_cases hold : i < l.stops.size
  · have hleft : i < (l.stops.take n).size := by
      rw [Array.take_eq_extract, Array.size_extract]
      omega
    rw [Array.getElem?_append_left hleft, Array.take_eq_extract, Array.getElem?_extract,
      if_pos (by omega), Nat.zero_add]
  · have hright : (l.stops.take n).size ≤ i := by
      rw [Array.take_eq_extract, Array.size_extract]
      omega
    rw [Array.getElem?_append_right hright, Array.getElem?_replicate,
      Array.getElem?_eq_none (Nat.not_lt.1 hold)]
    split
    · rfl
    · rfl

theorem mem_selected {l : Linkage} {t : TransitLayer} {selection : StopSelection}
    {i : StopIndex} {stop : Stop} (hstop : t.stops[i]? = some stop) :
    i ∈ l.selected t selection ↔ l.isSelected selection i stop.coordinate = true := by
  unfold selected
  simp only [mem_filterMap_zipIdx, Option.ite_none_right_eq_some, Option.some.injEq]
  constructor
  · rintro ⟨i, other, hother, hsel, rfl⟩
    have heq : some other = some stop := hother.symm.trans hstop
    rw [← Option.some.inj heq]
    exact hsel
  · intro hsel
    exact ⟨i, stop, hstop, hsel, rfl⟩

/-! ## Accuracy -/

/-- Every stop has the link and the tree of its place. -/
structure Located (l : Linkage) (street : StreetLayer) (t : TransitLayer)
    (params : LinkageParams) : Prop where
  size : l.stops.size = t.stops.size
  link : ∀ (i : StopIndex) (stop : Stop), t.stops[i]? = some stop →
    l.link i = (accessOf street params stop.coordinate).1
  tree : ∀ (i : StopIndex) (stop : Stop), t.stops[i]? = some stop →
    (l.access i).tree = (accessOf street params stop.coordinate).2

/-- Every stop has the link and the tree of its place, and the transfers that the links allow. -/
structure Accurate (l : Linkage) (street : StreetLayer) (t : TransitLayer)
    (params : LinkageParams) : Prop extends l.Located street t params where
  transfers : ∀ i < t.stops.size,
    (l.access i).transfers = l.transfersFrom t params.transferRadius i

theorem eq_of_access {l l' : Linkage} (hsize : l.stops.size = l'.stops.size)
    (haccess : ∀ i < l.stops.size, l.access i = l'.access i) : l = l' := by
  obtain ⟨stops⟩ := l
  obtain ⟨stops'⟩ := l'
  refine congrArg Linkage.mk (Array.ext hsize fun i hi hi' => ?_)
  have h := haccess i hi
  unfold access at h
  rwa [Array.getElem?_eq_getElem hi, Array.getElem?_eq_getElem hi'] at h

/-- The layers admit one accurate linkage only. -/
theorem Accurate.unique {l l' : Linkage} {street : StreetLayer} {t : TransitLayer}
    {params : LinkageParams} (h : l.Accurate street t params) (h' : l'.Accurate street t params) :
    l = l' := by
  have hlink : ∀ i, l'.link i = l.link i := by
    intro i
    by_cases hi : i < t.stops.size
    · have hstop := Array.getElem?_eq_getElem hi
      rw [h.link i _ hstop, h'.link i _ hstop]
    · rw [Nat.not_lt] at hi
      have hnone : l.stops.size ≤ i := Nat.le_trans (Nat.le_of_eq h.size) hi
      have hnone' : l'.stops.size ≤ i := Nat.le_trans (Nat.le_of_eq h'.size) hi
      rw [link_of_size_le hnone, link_of_size_le hnone']
  refine eq_of_access (h.size.trans h'.size.symm) fun i hi => ?_
  rw [h.size] at hi
  have hstop := Array.getElem?_eq_getElem hi
  have htree : (l.access i).tree = (l'.access i).tree := by
    rw [h.tree i _ hstop, h'.tree i _ hstop]
  have htransfers : (l.access i).transfers = (l'.access i).transfers := by
    rw [h.transfers i hi, h'.transfers i hi, transfersFrom_congr hlink]
  exact StopAccess.eq_of_fields (hlink i).symm htree htransfers

/-! ## Making a linkage accurate -/

section Linking

variable {l : Linkage} {street : StreetLayer} {t : TransitLayer} {params : LinkageParams}
  {selection : StopSelection}

theorem isSelected_resize {n : Nat} {i : StopIndex} {p : Coordinate} (hi : i < n) :
    (l.resize n).isSelected selection i p = l.isSelected selection i p := by
  have hlink : (l.resize n).link i = l.link i := congrArg StopAccess.link (access_resize hi)
  unfold isSelected
  rw [hlink]

theorem isSelected_of_pending {i : StopIndex} {p : Coordinate} (h : l.link i = .pending) :
    l.isSelected selection i p = true := by
  cases selection with
  | all => rfl
  | pending => exact decide_eq_true h
  | pendingOrWithin area =>
    unfold isSelected
    rw [h]
    rfl

theorem size_linkStops :
    (l.linkStops street t params selection).1.stops.size = t.stops.size := by
  unfold linkStops
  rw [size_foldl_relink, size_resize]

theorem mem_linkStops {i : StopIndex} {stop : Stop} (hstop : t.stops[i]? = some stop) :
    i ∈ (l.linkStops street t params selection).2 ↔
      l.isSelected selection i stop.coordinate = true := by
  have hi : i < t.stops.size := (Array.getElem?_eq_some_iff.1 hstop).1
  show i ∈ (l.resize t.stops.size).selected t selection ↔ _
  rw [mem_selected hstop, isSelected_resize hi]

theorem access_linkStops {i : StopIndex} {stop : Stop} (hstop : t.stops[i]? = some stop) :
    (l.linkStops street t params selection).1.access i =
      if l.isSelected selection i stop.coordinate then
        (l.access i).atPlace street params stop.coordinate
      else l.access i := by
  have hi : i < t.stops.size := (Array.getElem?_eq_some_iff.1 hstop).1
  unfold linkStops
  simp only
  rw [access_foldl_relink (by rwa [size_resize]) hstop, access_resize hi]
  simp only [mem_selected hstop, isSelected_resize hi]

/-- Linking the selected stops gives every stop the link and the tree of its place if those that are
not selected have them already. -/
theorem located_linkStops
    (h : ∀ (i : StopIndex) (stop : Stop), t.stops[i]? = some stop →
      l.isSelected selection i stop.coordinate = false →
        l.link i = (accessOf street params stop.coordinate).1 ∧
          (l.access i).tree = (accessOf street params stop.coordinate).2) :
    (l.linkStops street t params selection).1.Located street t params where
  size := size_linkStops
  link i stop hstop := by
    unfold link
    rw [access_linkStops hstop]
    cases hsel : l.isSelected selection i stop.coordinate with
    | true => rfl
    | false => exact (h i stop hstop hsel).1
  tree i stop hstop := by
    rw [access_linkStops hstop]
    cases hsel : l.isSelected selection i stop.coordinate with
    | true => rfl
    | false => exact (h i stop hstop hsel).2

theorem Located.recompute (h : l.Located street t params) (radius : Float)
    (ss : List StopIndex) : (l.recompute t radius ss).Located street t params where
  size := (size_recompute l t radius ss).trans h.size
  link i stop hstop := (link_recompute l t radius ss i).trans (h.link i stop hstop)
  tree i stop hstop := by
    have hi : i < l.stops.size := by
      rw [h.size]
      exact (Array.getElem?_eq_some_iff.1 hstop).1
    rw [access_recompute hi, ← h.tree i stop hstop]
    split
    · rfl
    · rfl

/-- Finding transfers anew makes a linkage accurate if the stops left out have theirs already. -/
theorem Located.accurate_recompute (h : l.Located street t params) {ss : List StopIndex}
    (hrest : ∀ i < t.stops.size, i ∉ ss →
      (l.access i).transfers = l.transfersFrom t params.transferRadius i) :
    (l.recompute t params.transferRadius ss).Accurate street t params where
  toLocated := h.recompute params.transferRadius ss
  transfers i hi := by
    rw [transfersFrom_congr (link_recompute l t params.transferRadius ss),
      access_recompute (by rwa [h.size])]
    by_cases hmem : i ∈ ss
    · rw [if_pos hmem]
    · rw [if_neg hmem]
      exact hrest i hi hmem

end Linking

/-- Linking every stop and finding every transfer makes any linkage accurate. -/
theorem accurate_all (l : Linkage) (street : StreetLayer) (t : TransitLayer)
    (params : LinkageParams) :
    ((l.linkStops street t params .all).1.findAllTransfers t params.transferRadius).Accurate
      street t params := by
  have hlocated : (l.linkStops street t params .all).1.Located street t params := by
    refine located_linkStops fun i stop _ hsel => ?_
    cases hsel
  refine hlocated.accurate_recompute fun i hi hmem => ?_
  exact absurd (List.mem_range.2 hi) hmem

section Selected

variable {l : Linkage} {street : StreetLayer} {t₀ t : TransitLayer} {params : LinkageParams}
  {selection : StopSelection}

/-- A stop that is not linked anew is an old one, since the link of a new one is pending. -/
theorem old_of_not_selected (hsize : l.stops.size = t₀.stops.size)
    (ht : Extends t.stops t₀.stops) {i : StopIndex} {stop : Stop} (hstop : t.stops[i]? = some stop)
    (hsel : l.isSelected selection i stop.coordinate = false) : t₀.stops[i]? = some stop := by
  by_cases hi : i < t₀.stops.size
  · rwa [ht.getElem? hi] at hstop
  · have hpending : l.link i = .pending :=
      link_of_size_le (Nat.le_trans (Nat.le_of_eq hsize) (Nat.not_lt.1 hi))
    rw [isSelected_of_pending hpending] at hsel
    cases hsel

theorem kept_of_not_linked (hsize : l.stops.size = t₀.stops.size)
    (ht : Extends t.stops t₀.stops) {i : StopIndex} {stop : Stop} (hstop : t.stops[i]? = some stop)
    (hmem : i ∉ (l.linkStops street t params selection).2) :
    t₀.stops[i]? = some stop ∧
      (l.linkStops street t params selection).1.access i = l.access i := by
  rw [mem_linkStops hstop, Bool.not_eq_true] at hmem
  refine ⟨old_of_not_selected hsize ht hstop hmem, ?_⟩
  rw [access_linkStops hstop, hmem]
  rfl

/-- Linking the selected stops changes no link but theirs, and the stops that are new are among
them. -/
theorem changedAt_linkStops (hsize : l.stops.size = t₀.stops.size)
    (ht : Extends t.stops t₀.stops) :
    (l.linkStops street t params selection).1.ChangedAt l t t₀
      (l.linkStops street t params selection).2 where
  added := ht
  dirty_of_new i hi hnew := by
    by_contra hmem
    have hold := (kept_of_not_linked hsize ht (Array.getElem?_eq_getElem hi) hmem).1
    exact absurd (Array.getElem?_eq_some_iff.1 hold).1 (Nat.not_lt.2 hnew)
  link i hi hmem := by
    have hstop : t.stops[i]? = some t₀.stops[i] := by
      rw [ht.getElem? hi]
      exact Array.getElem?_eq_getElem hi
    exact congrArg StopAccess.link (kept_of_not_linked hsize ht hstop hmem).2

/-- After stops were linked anew, those that are not around one of them still have the transfers that
the links determine, if they had them before. -/
theorem transfers_of_not_affected (hsize : l.stops.size = t₀.stops.size)
    (ht : Extends t.stops t₀.stops)
    (htransfers : ∀ i < t₀.stops.size,
      (l.access i).transfers = l.transfersFrom t₀ params.transferRadius i)
    {i : StopIndex} (hi : i < t.stops.size)
    (hmem : i ∉ (affected t params.transferRadius
      (l.linkStops street t params selection).2).toList) :
    ((l.linkStops street t params selection).1.access i).transfers =
      (l.linkStops street t params selection).1.transfersFrom t params.transferRadius i := by
  have hclean : i ∉ (l.linkStops street t params selection).2 :=
    fun hlinked => hmem (mem_affected.2 (.inl hlinked))
  obtain ⟨hstop₀, haccess⟩ := kept_of_not_linked hsize ht (Array.getElem?_eq_getElem hi) hclean
  rw [haccess, htransfers i (Array.getElem?_eq_some_iff.1 hstop₀).1,
    (changedAt_linkStops hsize ht).transfersFrom_eq hi hmem]

/-- Linking the selected stops and finding the transfers around them makes a linkage accurate if it
was accurate for layers that say the same of every other stop. -/
theorem accurate_selected {street₀ : StreetLayer} (h : l.Accurate street₀ t₀ params)
    (ht : Extends t.stops t₀.stops)
    (hsame : ∀ (i : StopIndex) (stop : Stop), t₀.stops[i]? = some stop →
      l.isSelected selection i stop.coordinate = false →
        accessOf street params stop.coordinate = accessOf street₀ params stop.coordinate) :
    (((l.linkStops street t params selection).1.findTransfers t params.transferRadius
      (l.linkStops street t params selection).2).1).Accurate street t params := by
  have hlocated : (l.linkStops street t params selection).1.Located street t params := by
    refine located_linkStops fun i stop hstop hsel => ?_
    have hstop₀ := old_of_not_selected h.size ht hstop hsel
    rw [hsame i stop hstop₀ hsel]
    exact ⟨h.link i stop hstop₀, h.tree i stop hstop₀⟩
  exact hlocated.accurate_recompute fun i hi hmem =>
    transfers_of_not_affected h.size ht h.transfers hi hmem

end Selected

/-- Without linking a stop anew a linkage stays accurate if the streets say the same of every
stop. -/
theorem Accurate.of_same {l : Linkage} {street₀ street : StreetLayer} {t : TransitLayer}
    {params : LinkageParams} (h : l.Accurate street₀ t params)
    (hsame : ∀ (i : StopIndex) (stop : Stop), t.stops[i]? = some stop →
      accessOf street params stop.coordinate = accessOf street₀ params stop.coordinate) :
    l.Accurate street t params where
  size := h.size
  link i stop hstop := by rw [h.link i stop hstop, hsame i stop hstop]
  tree i stop hstop := by rw [h.tree i stop hstop, hsame i stop hstop]
  transfers := h.transfers

end Linkage

end Multimodal
