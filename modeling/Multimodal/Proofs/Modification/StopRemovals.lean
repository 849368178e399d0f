import Multimodal.Proofs.Modification.Outcomes
import Multimodal.Proofs.Modification.SkippedStops

/-! # One removal of stops after another

When stops are taken out of a pattern in two goes, a trip keeps the same stops, dwells and hops in
either order.  But a dwell is only saved behind the first stop that stays, so that the order may decide
when the trip starts.

* `staying`: the positions that stay, and `staying_staying` for two goes.
* `Durations.CutTo.trans`, `Durations.CutTo.unique`: two goes leave what one would leave.
* `Trip.CutInTwo`: what becomes of a trip, with the head start that the first go gives it.
* `Pattern.CutBy`, `cutBy_of_cut?`: one go over a pattern.
* `sameService_of_cutBy`: both orders compared.
-/

namespace Multimodal

/-! ## Positions that stay -/

section Staying

variable {α : Type}

/-- The positions of the members that are not dropped. -/
def staying (drop : α → Prop) [DecidablePred drop] (xs : List α) : List Nat :=
  xs.zipIdx.filterMap fun (x, k) => if drop x then none else some k

variable {drop drop' : α → Prop} [DecidablePred drop] [DecidablePred drop'] {x : α} {xs : List α}

theorem staying_ascending (drop : α → Prop) [DecidablePred drop] (xs : List α) :
    (staying drop xs).Pairwise (· < ·) ∧ (∀ k ∈ staying drop xs, k < xs.length) ∧
      (staying drop xs).length = (xs.filter (¬drop ·)).length := by
  obtain ⟨hascending, hbounds, hlength⟩ := positions_ascending drop xs 0
  refine ⟨hascending, fun k hk => ?_, hlength⟩
  have hk := (hbounds k hk).2
  omega

theorem staying_cons (drop : α → Prop) [DecidablePred drop] (x : α) (xs : List α) :
    staying drop (x :: xs) =
      if drop x then (staying drop xs).map (· + 1) else 0 :: (staying drop xs).map (· + 1) := by
  have hlater : (xs.zipIdx 1).filterMap (fun (x, k) => if drop x then none else some k) =
      (staying drop xs).map (· + 1) := by
    unfold staying
    rw [List.zipIdx_succ, List.filterMap_map, List.map_filterMap]
    refine List.filterMap_congr fun (y, k) _ => ?_
    by_cases hy : drop y
    · simp only [Function.comp_apply, if_pos hy, Option.map_none]
    · simp only [Function.comp_apply, if_neg hy, Option.map_some]
  unfold staying at hlater ⊢
  rw [List.zipIdx_cons, List.filterMap_cons, hlater]
  by_cases hx : drop x
  · simp only [if_pos hx]
  · simp only [if_neg hx]

theorem staying_congr (h : ∀ x ∈ xs, drop x ↔ drop' x) : staying drop xs = staying drop' xs := by
  refine List.filterMap_congr fun (x, k) hx => ?_
  have hmem : x ∈ xs := List.fst_mem_of_mem_zipIdx hx
  simp only [h x hmem]

theorem staying_eq_range (h : ∀ x ∈ xs, ¬drop x) : staying drop xs = List.range xs.length := by
  induction xs with
  | nil => rfl
  | cons x xs ih =>
    obtain ⟨hx, hxs⟩ := List.forall_mem_cons.1 h
    rw [staying_cons, if_neg hx, ih hxs, List.length_cons, List.range_succ_eq_map]

/-- What stays of what stayed is what is dropped neither time. -/
theorem staying_staying (drop drop' : α → Prop) [DecidablePred drop] [DecidablePred drop']
    (xs : List α) :
    (staying drop' (xs.filter (¬drop ·))).filterMap ((staying drop xs)[·]?) =
      staying (fun x => drop x ∨ drop' x) xs := by
  induction xs with
  | nil => rfl
  | cons x xs ih =>
    -- one further on at both ends, in front of the list or behind its head
    have hlater : ∀ ks : List Nat, (ks.map (· + 1)).filterMap
        ((0 :: (staying drop xs).map (· + 1))[·]?) =
          (ks.filterMap ((staying drop xs)[·]?)).map (· + 1) := by
      intro ks
      rw [List.filterMap_map, List.map_filterMap]
      exact List.filterMap_congr fun k _ => by
        rw [Function.comp_apply, List.getElem?_cons_succ, List.getElem?_map]
    rw [staying_cons drop, staying_cons fun x => drop x ∨ drop' x, ← ih]
    by_cases hx : drop x
    · rw [if_pos hx, if_pos (Or.inl hx), List.filter_cons_of_neg (by simp [hx]), List.map_filterMap]
      exact List.filterMap_congr fun k _ => List.getElem?_map
    · rw [if_neg hx, List.filter_cons_of_pos (by simp [hx]), staying_cons drop']
      by_cases hx' : drop' x
      · rw [if_pos hx', if_pos (Or.inr hx'), hlater]
      · rw [if_neg hx', if_neg (not_or.2 ⟨hx, hx'⟩), List.filterMap_cons, hlater]
        rfl

end Staying

theorem getElem?_filterMap_getElem? {keep among : List Nat} (h : ∀ j ∈ keep, j < among.length)
    (i : Nat) : (keep.filterMap (among[·]?))[i]? = keep[i]?.bind (among[·]?) := by
  induction keep generalizing i with
  | nil => rfl
  | cons j keep ih =>
    obtain ⟨hj, hkeep⟩ := List.forall_mem_cons.1 h
    rw [List.filterMap_cons, List.getElem?_eq_getElem hj]
    cases i with
    | zero => exact (List.getElem?_eq_getElem hj).symm
    | succ i => exact ih hkeep i

/-! ## Durations that are cut twice -/

namespace Durations

variable {d d' d'' : Durations} {keep among : List Nat}

theorem CutTo.unique (h : d.CutTo keep d') (h' : d.CutTo keep d'') : d' = d'' := by
  have hdwells : d'.dwells = d''.dwells := by
    refine List.ext_getElem? fun i => ?_
    by_cases hi : i < keep.length
    · obtain ⟨dwell, hleft, hdwell⟩ := h.dwells i _ (List.getElem?_eq_getElem hi)
      obtain ⟨dwell', hleft', hdwell'⟩ := h'.dwells i _ (List.getElem?_eq_getElem hi)
      rw [hleft, hleft', ← hdwell, hdwell']
    · rw [List.getElem?_eq_none (h.length ▸ Nat.not_lt.1 hi),
        List.getElem?_eq_none (h'.length ▸ Nat.not_lt.1 hi)]
  have hhops : d'.hops = d''.hops := by
    have hlength : d'.hops.length = keep.length - 1 := h.length ▸ h.matched
    have hlength' : d''.hops.length = keep.length - 1 := h'.length ▸ h'.matched
    refine List.ext_getElem? fun i => ?_
    by_cases hi : i < keep.length - 1
    · have hnext : i + 1 < keep.length := by omega
      have hthis := List.getElem?_eq_getElem (Nat.lt_of_succ_lt hnext)
      obtain ⟨hop, hleft, hhop⟩ := h.hops i _ _ hthis (List.getElem?_eq_getElem hnext)
      obtain ⟨hop', hleft', hhop'⟩ := h'.hops i _ _ hthis (List.getElem?_eq_getElem hnext)
      rw [hleft, hleft', UInt32.toNat_inj.1 (hhop.trans hhop'.symm)]
    · rw [List.getElem?_eq_none (hlength ▸ Nat.not_lt.1 hi),
        List.getElem?_eq_none (hlength' ▸ Nat.not_lt.1 hi)]
  cases d'
  cases d''
  simp only at hdwells hhops
  rw [hdwells, hhops]

theorem CutTo.refl (h : d.Matched) : d.CutTo (List.range d.dwells.length) d where
  length := List.length_range.symm
  matched := h
  dwells i k hk := by
    obtain ⟨hi, rfl⟩ := List.getElem?_eq_some_iff.1 hk
    rw [List.getElem_range]
    rw [List.length_range] at hi
    exact ⟨_, List.getElem?_eq_getElem hi, List.getElem?_eq_getElem hi⟩
  hops i a b ha hb := by
    obtain ⟨hi, rfl⟩ := List.getElem?_eq_some_iff.1 ha
    obtain ⟨hi', rfl⟩ := List.getElem?_eq_some_iff.1 hb
    rw [List.length_range] at hi'
    have hhop : i < d.hops.length := by
      unfold Matched at h
      omega
    refine ⟨_, List.getElem?_eq_getElem hhop, ?_⟩
    rw [List.getElem_range, List.getElem_range, Nat.add_sub_cancel_left,
      List.drop_eq_getElem_cons hhop, List.take_succ_cons, List.take_zero, Seconds.total_cons,
      Seconds.total_nil, Nat.add_zero]

theorem CutTo.trans (h : d.CutTo among d') (h' : d'.CutTo keep d'')
    (hamong : among.Pairwise (· < ·)) (hkeep : keep.Pairwise (· < ·))
    (hbounds : ∀ j ∈ keep, j < among.length) :
    d.CutTo (keep.filterMap (among[·]?)) d'' where
  length := by
    rw [h'.length]
    refine (List.filterMap_length_eq_length.2 fun j hj => ?_).symm
    rw [List.getElem?_eq_getElem (hbounds j hj)]
    rfl
  matched := h'.matched
  dwells i k hk := by
    rw [getElem?_filterMap_getElem? hbounds] at hk
    obtain ⟨j, hj, hk⟩ := Option.bind_eq_some_iff.1 hk
    obtain ⟨dwell, hleft, hdwell⟩ := h'.dwells i j hj
    obtain ⟨dwell', hleft', hdwell'⟩ := h.dwells j k hk
    obtain rfl : dwell = dwell' := Option.some.inj (hdwell.symm.trans hleft')
    exact ⟨dwell, hleft, hdwell'⟩
  hops i a b ha hb := by
    rw [getElem?_filterMap_getElem? hbounds] at ha hb
    obtain ⟨j, hj, ha⟩ := Option.bind_eq_some_iff.1 ha
    obtain ⟨j', hj', hb⟩ := Option.bind_eq_some_iff.1 hb
    obtain ⟨hop, hleft, hhop⟩ := h'.hops i j j' hj hj'
    refine ⟨hop, hleft, hhop.trans ?_⟩
    -- both sides are the time between the same two stops
    obtain ⟨hja, haj⟩ := List.getElem?_eq_some_iff.1 ha
    obtain ⟨hjb, hbj⟩ := List.getElem?_eq_some_iff.1 hb
    obtain ⟨first, hfirst⟩ := exists_head?_of_lt hja
    have htoA := h.total_hops hamong hfirst ha
    have htoB := h.total_hops hamong hfirst hb
    have hjj : j < j' := lt_of_ascending hkeep hj hj'
    have hab : a < b := haj ▸ hbj ▸ List.pairwise_iff_getElem.1 hamong j j' hja hjb hjj
    have hleftBetween := Seconds.total_take_add d'.hops j (j' - j)
    have hbetween := Seconds.total_take_add d.hops a (b - a)
    rw [Nat.add_sub_cancel' (Nat.le_of_lt hjj)] at hleftBetween
    rw [Nat.add_sub_cancel' (Nat.le_of_lt hab)] at hbetween
    omega

/-- The dwells that are saved, if only the first positions stay, on the way to the first of the others,
which stay for good. -/
def headStart (d : Durations) (among keep : List Nat) : Nat :=
  match keep.head? with
  | none => 0
  | some k => d.saved among k

end Durations

/-! ## Trips that are cut twice -/

namespace Trip

variable {t t' t'' t₁ t₂ : Trip} {d d' d'' : Durations} {stops : Nat} {among among' keep : List Nat}

/-- Two trips are one run at two times of the day. -/
structure SameRun (t t' : Trip) : Prop where
  id : t.id = t'.id
  durations : t.durations? = t'.durations?

/-- What becomes of a trip when the stops outside `keep` go, those outside `among` before the others: it
starts when it used to reach the first stop that stays, less the head start. -/
structure CutInTwo (t : Trip) (d : Durations) (among keep : List Nat) (t' : Trip) : Prop where
  id : t'.id = t.id
  accepted : t'.validate keep.length = .ok ()
  cut : ∃ d', t'.durations? = some d' ∧ d.CutTo keep d'
  start : t'.start.toNat + d.headStart among keep =
    ((keep.head?.bind (t.arrivals[·]?)).getD 0).toNat

/-- The order of the cuts is seen in the start only. -/
theorem CutInTwo.compare (h₁ : t.CutInTwo d among keep t₁) (h₂ : t.CutInTwo d among' keep t₂) :
    t₁.SameRun t₂ ∧ (t₁ = t₂ ↔ d.headStart among keep = d.headStart among' keep) := by
  obtain ⟨d₁, hd₁, hcut₁⟩ := h₁.cut
  obtain ⟨d₂, hd₂, hcut₂⟩ := h₂.cut
  obtain rfl := hcut₁.unique hcut₂
  have hid : t₁.id = t₂.id := h₁.id.trans h₂.id.symm
  have hstart : t₁.start.toNat + d.headStart among keep =
      t₂.start.toNat + d.headStart among' keep := h₁.start.trans h₂.start.symm
  refine ⟨⟨hid, hd₁.trans hd₂.symm⟩, fun h => ?_, fun h => ?_⟩
  · rw [h] at hstart
    exact Nat.add_left_cancel hstart
  · rw [h] at hstart
    have hsame : t₁.start = t₂.start := UInt32.toNat_inj.1 (Nat.add_right_cancel hstart)
    have hbuild₁ := build_durations h₁.accepted hd₁
    rw [hid, hsame, build_durations h₂.accepted hd₂] at hbuild₁
    exact (Except.ok.inj hbuild₁).symm

theorem Shortened.refl (h : t.validate stops = .ok ()) (hd : t.durations? = some d) :
    t.Shortened d (List.range stops) t d := by
  obtain ⟨hforward, hlength⟩ := validate_iff.1 h
  obtain ⟨hdwells, hmatched⟩ := matched_of_split hforward hd
  have hcut := Durations.CutTo.refl hmatched
  rw [hdwells, hlength] at hcut
  refine of_cut h hd List.pairwise_lt_range (fun k hk => List.mem_range.1 hk) rfl
    (List.length_range.symm ▸ h) hd ?_ hcut
  cases stops with
  | zero =>
    rw [List.length_eq_zero_iff.1 hlength]
    rfl
  | succ stops =>
    rw [List.range_succ_eq_map, List.head?_cons, Option.bind_some, List.head?_eq_getElem?]

theorem Shortened.cutInTwo (h : t.Shortened d among t' d') (h' : t'.Shortened d' keep t'' d'')
    (hamong : among.Pairwise (· < ·)) (hkeep : keep.Pairwise (· < ·))
    (hbounds : ∀ j ∈ keep, j < among.length) :
    t.CutInTwo d among (keep.filterMap (among[·]?)) t'' := by
  have hcut := h.cut.trans h'.cut hamong hkeep hbounds
  have hlength : (keep.filterMap (among[·]?)).length = keep.length :=
    hcut.length.symm.trans h'.cut.length
  refine ⟨h'.id.trans h.id, hlength ▸ h'.accepted, ⟨d'', h'.durations, hcut⟩, ?_⟩
  have hhead := getElem?_filterMap_getElem? hbounds 0
  rw [← List.head?_eq_getElem?, ← List.head?_eq_getElem?] at hhead
  unfold Trip.start Durations.headStart
  rw [h'.start, hhead]
  cases hj : keep.head? with
  | none => rfl
  | some j =>
    rw [hj] at hhead
    have hj : j < among.length := hbounds j (List.mem_of_head? hj)
    obtain ⟨before, after, hbefore, hafter, hearlier⟩ :=
      h.arrivals j _ (List.getElem?_eq_getElem hj)
    simp only [Option.bind_some, List.getElem?_eq_getElem hj, hbefore, hafter, Option.getD_some]
    exact hearlier

end Trip

/-! ## Patterns that are cut twice -/

theorem forall₂_trans {α β γ : Type} {R : α → β → Prop} {S : β → γ → Prop} {T : α → γ → Prop}
    {as : List α} {bs : List β} {cs : List γ} (h : ∀ a b c, R a b → S b c → T a c)
    (hR : List.Forall₂ R as bs) (hS : List.Forall₂ S bs cs) : List.Forall₂ T as cs := by
  induction hR generalizing cs with
  | nil =>
    cases hS
    exact List.Forall₂.nil
  | cons hfirst _ ih =>
    cases hS with
    | cons hnext hrest => exact List.Forall₂.cons (h _ _ _ hfirst hnext) (ih hrest)

/-- Two lists that come from a third one, compared place by place. -/
theorem forall₂_compare {α β : Type} {R S : α → β → Prop} {Q : β → β → Prop} {P : α → Prop}
    {as : List α} {bs cs : List β}
    (h : ∀ a ∈ as, ∀ b c, R a b → S a c → Q b c ∧ (b = c ↔ P a)) (hR : List.Forall₂ R as bs)
    (hS : List.Forall₂ S as cs) : List.Forall₂ Q bs cs ∧ (bs = cs ↔ ∀ a ∈ as, P a) := by
  induction hR generalizing cs with
  | nil =>
    cases hS
    exact ⟨List.Forall₂.nil, iff_of_true rfl fun a ha => absurd ha List.not_mem_nil⟩
  | @cons a b as bs hb _ ih =>
    cases hS with
    | @cons _ c _ cs hc hcs =>
      obtain ⟨hQ, hfirst⟩ := h a List.mem_cons_self b c hb hc
      obtain ⟨hQs, hrest⟩ := ih (fun a' ha' => h a' (List.mem_cons_of_mem a ha')) hcs
      exact ⟨List.Forall₂.cons hQ hQs, by rw [List.cons.injEq, hfirst, hrest, List.forall_mem_cons]⟩

namespace Pattern

/-- Two patterns serve the same stops of a route with the same runs at different times of the day. -/
structure SameService (p q : Pattern) : Prop where
  route : p.route = q.route
  stops : p.stops = q.stops
  trips : List.Forall₂ Trip.SameRun p.trips q.trips

/-- Some stops are taken out of a pattern, and every trip is shortened. -/
structure CutBy (drop : StopIndex → Prop) [DecidablePred drop] (p q : Pattern) : Prop where
  route : q.route = p.route
  stops : q.stops = p.stops.filter (¬drop ·)
  trips : List.Forall₂ (fun t t' => ∃ d d', t.durations? = some d ∧
    t.Shortened d (staying drop p.stops) t' d') p.trips q.trips

/-- The dwells that a trip saves, when some stops are taken out, on the way to the first stop that is
left once others are taken out too. -/
def headStart (p : Pattern) (drop drop' : StopIndex → Prop) [DecidablePred drop]
    [DecidablePred drop'] (t : Trip) : Nat :=
  match t.durations? with
  | none => 0
  | some d => d.headStart (staying drop p.stops) (staying (fun s => drop s ∨ drop' s) p.stops)

variable {drop drop' : StopIndex → Prop} [DecidablePred drop] [DecidablePred drop']
  {p q q' r r' : Pattern}

theorem CutBy.trans (h : p.CutBy drop q) (h' : q.CutBy drop' r) :
    r.route = p.route ∧ r.stops = p.stops.filter (fun s => ¬(drop s ∨ drop' s)) ∧
      List.Forall₂ (fun t t' => ∃ d, t.durations? = some d ∧
        t.CutInTwo d (staying drop p.stops) (staying (fun s => drop s ∨ drop' s) p.stops) t')
        p.trips r.trips := by
  refine ⟨h'.route.trans h.route, ?_, ?_⟩
  · rw [h'.stops, h.stops, List.filter_filter]
    refine List.filter_congr fun s _ => ?_
    rw [← Bool.decide_and]
    exact decide_eq_decide.2 (by rw [not_or, and_comm])
  · obtain ⟨hascending, -, hlength⟩ := staying_ascending drop p.stops
    obtain ⟨hascending', hbounds', -⟩ := staying_ascending drop' q.stops
    rw [← staying_staying drop drop' p.stops, ← h.stops]
    refine forall₂_trans (fun t t' t'' => ?_) h.trips h'.trips
    rintro ⟨d, d', hd, hshort⟩ ⟨d₁, d'', hd₁, hshort'⟩
    obtain rfl : d' = d₁ := Option.some.inj (hshort.durations.symm.trans hd₁)
    refine ⟨d, hd, hshort.cutInTwo hshort' hascending hascending' fun j hj => ?_⟩
    rw [hlength, ← h.stops]
    exact hbounds' j hj

/-- Both orders leave the same service, and they leave the same pattern exactly if every trip has the
same head start in both. -/
theorem sameService_of_cutBy (h : p.CutBy drop q) (h' : q.CutBy drop' r) (hd : p.CutBy drop' q')
    (hd' : q'.CutBy drop r') : r.SameService r' ∧
      (r = r' ↔ ∀ t ∈ p.trips, p.headStart drop drop' t = p.headStart drop' drop t) := by
  obtain ⟨hroute, hstops, htrips⟩ := h.trans h'
  obtain ⟨hroute', hstops', htrips'⟩ := hd.trans hd'
  have hboth : staying (fun s => drop' s ∨ drop s) p.stops =
      staying (fun s => drop s ∨ drop' s) p.stops := staying_congr fun s _ => or_comm
  have hsame : r.stops = r'.stops := by
    rw [hstops, hstops']
    exact List.filter_congr fun s _ => decide_eq_decide.2 (not_congr or_comm)
  obtain ⟨hruns, heq⟩ := forall₂_compare (Q := Trip.SameRun)
    (P := fun t => p.headStart drop drop' t = p.headStart drop' drop t) (fun t _ t₁ t₂ => by
      rintro ⟨d, hd, hcut⟩ ⟨d₁, hd₁, hcut₁⟩
      obtain rfl : d = d₁ := Option.some.inj (hd.symm.trans hd₁)
      unfold headStart
      rw [hboth] at hcut₁
      simp only [hd, hboth]
      exact hcut.compare hcut₁) htrips htrips'
  refine ⟨⟨hroute.trans hroute'.symm, hsame, hruns⟩, ?_⟩
  rw [← heq]
  refine ⟨fun h => congrArg Pattern.trips h, fun htrips => ?_⟩
  cases r
  cases r'
  simp only at hroute hroute' hsame htrips
  rw [hroute, hroute', hsame, htrips]

end Pattern

/-! ## Patterns that the modification changes -/

namespace RemoveStops

variable {m : RemoveStops} {p q : Pattern}

/-- The modification takes a stop out of the patterns of a route. -/
def Drops (m : RemoveStops) (route : RouteIndex) (s : StopIndex) : Prop :=
  m.concerns route = true ∧ s ∈ m.foundStops

instance (m : RemoveStops) (route : RouteIndex) : DecidablePred (m.Drops route) :=
  fun _ => inferInstanceAs (Decidable (_ ∧ _))

theorem staying_of_touches (h : m.touches p = true) :
    staying (m.Drops p.route) p.stops = m.keptPositions p := by
  have hconcerns := (Bool.and_eq_true_iff.1 h).1
  exact staying_congr fun s _ => and_iff_right hconcerns

theorem not_drops_of_not_touches (h : m.touches p ≠ true) : ∀ s ∈ p.stops, ¬m.Drops p.route s := by
  rintro s hs ⟨hconcerns, hfound⟩
  refine h (Bool.and_eq_true_iff.2 ⟨hconcerns, decide_eq_true fun hlength => ?_⟩)
  rw [m.length_keptPositions, List.length_filter_eq_length_iff] at hlength
  exact of_decide_eq_true (hlength s hs) hfound

theorem cutBy_of_cut? (hp : ∀ trip ∈ p.trips, trip.validate p.stops.length = .ok ())
    (h : m.cut? p = some q) : p.CutBy (m.Drops p.route) q := by
  unfold cut? at h
  by_cases htouches : m.touches p = true
  · rw [if_pos htouches] at h
    by_cases hfew : (m.keptPositions p).length < 2
    · rw [if_pos hfew] at h
      cases h
    · rw [if_neg hfew] at h
      cases htrips : p.trips.mapM (Trip.skip (m.keptPositions p)) with
      | error e =>
        rw [htrips] at h
        cases h
      | ok trips =>
        rw [htrips] at h
        cases h
        have hconcerns := (Bool.and_eq_true_iff.1 htouches).1
        obtain ⟨hascending, hbounds⟩ := m.keptPositions_ascending p
        have hkeep : m.keptPositions p ≠ [] := fun hnil => hfew (by rw [hnil]; decide)
        refine ⟨rfl, List.filter_congr fun s _ => ?_, ?_⟩
        · exact decide_eq_decide.2 (not_congr (and_iff_right hconcerns)).symm
        · rw [staying_of_touches htouches]
          have hskip := (List.forall₂_and_left _ _).2 ⟨hp, Yields.forall₂_of_mapM htrips⟩
          refine hskip.imp fun t t' ht => ?_
          exact Trip.shortened_of_skip ht.1 hascending hbounds hkeep ht.2
  · rw [if_neg htouches] at h
    cases h
    have hnone := not_drops_of_not_touches htouches
    refine ⟨rfl, ?_, List.forall₂_same.2 fun t ht => ?_⟩
    · exact (List.filter_eq_self.2 fun s hs => decide_eq_true (hnone s hs)).symm
    · obtain ⟨d, hd, -⟩ := Trip.durations?_isSome (hp t ht)
      rw [staying_eq_range hnone]
      exact ⟨d, d, hd, Trip.Shortened.refl (hp t ht) hd⟩

end RemoveStops

end Multimodal
