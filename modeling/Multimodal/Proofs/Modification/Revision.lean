import Multimodal.Modification.Stops
import Multimodal.Modification.Trips
import Multimodal.Proofs.Transit.Durations

/-! # Revising accepted trips

A revision takes the times of a trip apart, changes some durations and lays them out again.  For a
trip that its pattern accepts nothing goes wrong when the times are taken apart, and what is laid out
is accepted by the pattern that the trip becomes part of.

* `keptPositions_ascending`, `length_keptPositions`: the positions that stay.
* `Trip.durations?_isSome`, `Trip.skip?_isSome`, `newDwells?_eq`: readings that succeed.
* `passes_between`, `roomBetween`: the time between two stops, which is enough for the dwells between.
* `directHop?_eq`, `keptDurations`: what is left of the hops and the dwells.
* `Revises`: a revision keeps trips accepted.
* `Trip.tells_of_rebuild`: what laying out again leaves.
* `Trip.skip_eq_ok`, `revises_rescale`, `revises_redwell`: the three revisions.
-/

namespace Multimodal

/-! ## Positions that stay -/

theorem exists_head?_of_lt {α : Type} {l : List α} {i : Nat} (h : i < l.length) :
    ∃ a, l.head? = some a :=
  ⟨_, List.head?_eq_getElem? ▸ List.getElem?_eq_getElem (Nat.zero_lt_of_lt h)⟩

/-- The positions of the members that pass a test, the first member having position `i`. -/
theorem positions_ascending {α : Type} (drop : α → Prop) [DecidablePred drop] (xs : List α)
    (i : Nat) :
    ((xs.zipIdx i).filterMap fun (x, k) => if drop x then none else some k).Pairwise (· < ·) ∧
      (∀ k ∈ (xs.zipIdx i).filterMap fun (x, k) => if drop x then none else some k,
        i ≤ k ∧ k < i + xs.length) ∧
      ((xs.zipIdx i).filterMap fun (x, k) => if drop x then none else some k).length =
        (xs.filter (¬drop ·)).length := by
  induction xs generalizing i with
  | nil => exact ⟨List.Pairwise.nil, fun k hk => absurd hk List.not_mem_nil, rfl⟩
  | cons x xs ih =>
    obtain ⟨hascending, hbounds, hlength⟩ := ih (i + 1)
    have hwider : ∀ k ∈ (xs.zipIdx (i + 1)).filterMap fun (x, k) => if drop x then none else some k,
        i ≤ k ∧ k < i + (xs.length + 1) := by
      intro k hk
      obtain ⟨hlow, hhigh⟩ := hbounds k hk
      omega
    rw [List.zipIdx_cons, List.filterMap_cons, List.filter_cons]
    by_cases hx : drop x
    · simp only [hx, if_true, not_true_eq_false, decide_false, Bool.false_eq_true, if_false]
      exact ⟨hascending, hwider, hlength⟩
    · simp only [hx, if_false, not_false_eq_true, decide_true, if_true]
      refine ⟨List.pairwise_cons.2 ⟨fun k hk => (hbounds k hk).1, hascending⟩, ?_, ?_⟩
      · refine List.forall_mem_cons.2 ⟨⟨Nat.le_refl i, ?_⟩, hwider⟩
        rw [List.length_cons]
        omega
      · rw [List.length_cons, List.length_cons, hlength]

namespace RemoveStops

theorem keptPositions_ascending (m : RemoveStops) (p : Pattern) :
    (m.keptPositions p).Pairwise (· < ·) ∧ ∀ k ∈ m.keptPositions p, k < p.stops.length := by
  obtain ⟨hascending, hbounds, -⟩ := positions_ascending (· ∈ m.foundStops) p.stops 0
  refine ⟨hascending, fun k hk => ?_⟩
  have hk := (hbounds k hk).2
  omega

theorem length_keptPositions (m : RemoveStops) (p : Pattern) :
    (m.keptPositions p).length = (p.stops.filter (· ∉ m.foundStops)).length :=
  (positions_ascending (· ∈ m.foundStops) p.stops 0).2.2

end RemoveStops

/-! ## Readings that succeed -/

namespace Trip

variable {t : Trip} {stops : Nat}

theorem durations?_isSome (h : t.validate stops = .ok ()) :
    ∃ d, t.durations? = some d ∧ d.dwells.length = stops := by
  obtain ⟨hforward, hlength⟩ := validate_iff.1 h
  obtain ⟨d, hd, hdwells, -⟩ := splitTimes?_of_forward hforward
  exact ⟨d, hd, hdwells.trans hlength⟩

/-- The travel time from one position to a later one when the dwells between are saved. -/
def directHop? (t : Trip) (d : Durations) : Nat × Nat → Option Seconds
  | (a, b) => do
    let saved ← Seconds.sum? ((d.dwells.drop (a + 1)).take (b - (a + 1)))
    let direct ← Seconds.elapsed? (← t.departures[a]?) (← t.arrivals[b]?)
    return (Seconds.elapsed? saved direct).getD 0

/-- From leaving a stop to reaching a later one pass the hops and the dwells between. -/
theorem passes_between (h : t.validate stops = .ok ()) {d : Durations}
    (hd : t.durations? = some d) {a b : Nat} (hab : a < b) (hb : b < stops) :
    ∃ departure arrival, t.departures[a]? = some departure ∧ t.arrivals[b]? = some arrival ∧
      departure.toNat + Seconds.total ((d.dwells.drop (a + 1)).take (b - (a + 1))) +
        Seconds.total ((d.hops.drop a).take (b - a)) = arrival.toNat := by
  obtain ⟨hforward, hlength⟩ := validate_iff.1 h
  have hdepartures : t.departures.length = stops := hforward.length_eq.symm.trans hlength
  have ha : a < t.departures.length := by omega
  have hb' : b < t.arrivals.length := by omega
  obtain ⟨first, hfirst⟩ := exists_head?_of_lt hb'
  have hleave := (times_eq hforward hd hfirst a).2 _ (List.getElem?_eq_getElem ha)
  have hreach := (times_eq hforward hd hfirst b).1 _ (List.getElem?_eq_getElem hb')
  have hdwells := Seconds.total_take_add d.dwells (a + 1) (b - (a + 1))
  have hhops := Seconds.total_take_add d.hops a (b - a)
  rw [Nat.add_sub_cancel' hab] at hdwells
  rw [Nat.add_sub_cancel' (Nat.le_of_lt hab)] at hhops
  refine ⟨_, _, List.getElem?_eq_getElem ha, List.getElem?_eq_getElem hb', ?_⟩
  omega

/-- The dwells between two stops add up to a time, and the time that passes from leaving the one to
reaching the other is long enough for them. -/
def RoomBetween (t : Trip) (d : Durations) (a b : Nat) : Prop :=
  ∃ departure arrival saved, t.departures[a]? = some departure ∧ t.arrivals[b]? = some arrival ∧
    Seconds.sum? ((d.dwells.drop (a + 1)).take (b - (a + 1))) = some saved ∧
    departure ≤ arrival ∧ saved ≤ arrival - departure

theorem roomBetween (h : t.validate stops = .ok ()) {d : Durations} (hd : t.durations? = some d)
    {a b : Nat} (hab : a < b) (hb : b < stops) : t.RoomBetween d a b := by
  obtain ⟨departure, arrival, hdeparture, harrival, hpasses⟩ := passes_between h hd hab hb
  have htime : arrival.toNat < UInt32.size := UInt32.toNat_lt arrival
  obtain ⟨saved, hsum, hsaved⟩ := Seconds.sum?_isSome
    (l := (d.dwells.drop (a + 1)).take (b - (a + 1))) (by omega)
  have hdirect : departure ≤ arrival := by
    rw [UInt32.le_iff_toNat_le]
    omega
  have helapsed := Seconds.toNat_elapsed hdirect
  refine ⟨departure, arrival, saved, hdeparture, harrival, hsum, hdirect, ?_⟩
  rw [UInt32.le_iff_toNat_le]
  omega

/-- Between two stops of an accepted trip there is time for the dwells between, and the hops between
are what is left of it. -/
theorem directHop?_eq (h : t.validate stops = .ok ()) {d : Durations}
    (hd : t.durations? = some d) {a b : Nat} (hab : a < b) (hb : b < stops) :
    ∃ hop, t.directHop? d (a, b) = some hop ∧
      hop.toNat = Seconds.total ((d.hops.drop a).take (b - a)) := by
  obtain ⟨departure, arrival, hdeparture, harrival, hpasses⟩ := passes_between h hd hab hb
  obtain ⟨departure', arrival', saved, hdeparture', harrival', hsum, hdirect, hsaves⟩ :=
    roomBetween h hd hab hb
  obtain rfl : departure = departure' := Option.some.inj (hdeparture.symm.trans hdeparture')
  obtain rfl : arrival = arrival' := Option.some.inj (harrival.symm.trans harrival')
  have hsaved := Seconds.toNat_sum? hsum
  have helapsed := Seconds.toNat_elapsed hdirect
  have hleft := Seconds.toNat_elapsed hsaves
  refine ⟨arrival - departure - saved, ?_, by omega⟩
  unfold directHop?
  simp only [hsum, hdeparture, harrival, Seconds.elapsed?_of_le hdirect,
    Seconds.elapsed?_of_le hsaves, Option.bind_eq_bind, Option.bind_some]
  rfl

/-- The dwells and the hops of an accepted trip that calls at ascending positions only, and how much
time they leave of the whole run. -/
theorem keptDurations (h : t.validate stops = .ok ()) {d : Durations}
    (hd : t.durations? = some d) {k : Nat} {keep : List Nat}
    (hascending : (k :: keep).Pairwise (· < ·)) (hbounds : ∀ j ∈ k :: keep, j < stops) :
    ∃ dwells hops, (k :: keep).mapM (fun j => d.dwells[j]?) = some dwells ∧
      ((k :: keep).zip keep).mapM (t.directHop? d) = some hops ∧
      dwells.length = keep.length + 1 ∧
      Seconds.total (d.dwells.take k) + Seconds.total (d.hops.take k) + Seconds.total dwells +
        Seconds.total hops ≤ Seconds.total d.dwells + Seconds.total d.hops := by
  have hcount : d.dwells.length = stops := by
    obtain ⟨d', hd', hlength⟩ := durations?_isSome h
    rw [hd] at hd'
    rwa [Option.some.inj hd']
  induction keep generalizing k with
  | nil =>
    have hk : k < d.dwells.length := hcount ▸ hbounds k List.mem_cons_self
    refine ⟨[d.dwells[k]], [], by simp [hk], rfl, rfl, ?_⟩
    have hdwell := Seconds.total_take_succ (List.getElem?_eq_getElem hk)
    have hdwells := Seconds.total_take_le d.dwells (k + 1)
    have hhops := Seconds.total_take_le d.hops k
    simp only [Seconds.total_cons, Seconds.total_nil]
    omega
  | cons j keep ih =>
    obtain ⟨hfirst, hrest⟩ := List.pairwise_cons.1 hascending
    have hkj : k < j := hfirst j List.mem_cons_self
    have hk : k < d.dwells.length := hcount ▸ hbounds k List.mem_cons_self
    obtain ⟨dwells, hops, hdwells, hhops, hlength, htotal⟩ :=
      ih hrest fun i hi => hbounds i (List.mem_cons_of_mem k hi)
    obtain ⟨hop, hhop, hbetween⟩ :=
      directHop?_eq h hd hkj (hbounds j (List.mem_cons_of_mem k List.mem_cons_self))
    refine ⟨d.dwells[k] :: dwells, hop :: hops, ?_, ?_, congrArg (· + 1) hlength, ?_⟩
    · rw [List.mapM_cons, List.getElem?_eq_getElem hk, hdwells]
      rfl
    · rw [List.zip_cons_cons, List.mapM_cons, hhop, hhops]
      rfl
    · have hdwell := Seconds.total_take_succ (List.getElem?_eq_getElem hk)
      have hpassed : Seconds.total (d.dwells.take (k + 1)) ≤ Seconds.total (d.dwells.take j) :=
        Seconds.total_take_mono d.dwells hkj
      have hhop := Seconds.total_take_add d.hops k (j - k)
      rw [Nat.add_sub_cancel' (Nat.le_of_lt hkj)] at hhop
      rw [Seconds.total_cons, Seconds.total_cons]
      omega

/-- From any stop of an accepted trip on, the dwells and hops that are left pass before the clock
ends. -/
theorem total_lt (h : t.validate stops = .ok ()) {d : Durations} (hd : t.durations? = some d)
    {k : Nat} {time : Seconds} (htime : t.arrivals[k]? = some time) :
    time.toNat + Seconds.total d.dwells + Seconds.total d.hops <
      UInt32.size + Seconds.total (d.dwells.take k) + Seconds.total (d.hops.take k) := by
  obtain ⟨hforward, hlength⟩ := validate_iff.1 h
  obtain ⟨d', hd', hdwells, hhops⟩ := splitTimes?_of_forward hforward
  obtain rfl : d' = d := Option.some.inj (hd'.symm.trans hd)
  have hk := (List.getElem?_eq_some_iff.1 htime).1
  have hlast : t.arrivals.length - 1 < t.departures.length := by
    rw [← hforward.length_eq]
    omega
  obtain ⟨first, hfirst⟩ := exists_head?_of_lt hk
  have hreach := (times_eq hforward hd hfirst k).1 time htime
  have hend := (times_eq hforward hd hfirst (t.arrivals.length - 1)).2 _
    (List.getElem?_eq_getElem hlast)
  rw [Nat.sub_add_cancel (Nat.zero_lt_of_lt hk), List.take_of_length_le (Nat.le_of_eq hdwells),
    List.take_of_length_le (Nat.le_of_eq hhops)] at hend
  have hclock : t.departures[t.arrivals.length - 1].toNat < UInt32.size := UInt32.toNat_lt _
  omega

/-- An accepted trip can call at ascending positions only, if there is one, and that takes no more
time. -/
theorem skip?_isSome (h : t.validate stops = .ok ()) {keep : List Nat}
    (hascending : keep.Pairwise (· < ·)) (hbounds : ∀ k ∈ keep, k < stops) (hkeep : keep ≠ []) :
    ∃ first d, t.skip? keep = some (first, d) ∧ d.dwells.length = keep.length ∧
      first.toNat + Seconds.total d.dwells + Seconds.total d.hops < UInt32.size := by
  obtain ⟨d, hd, -⟩ := durations?_isSome h
  have hlength : t.arrivals.length = stops := (validate_iff.1 h).2
  cases keep with
  | nil => exact absurd rfl hkeep
  | cons k keep =>
    obtain ⟨dwells, hops, hdwells, hhops, hcount, htotal⟩ := keptDurations h hd hascending hbounds
    have hk : k < t.arrivals.length := hlength ▸ hbounds k List.mem_cons_self
    have hend := total_lt h hd (List.getElem?_eq_getElem hk)
    refine ⟨t.arrivals[k], ⟨dwells, hops⟩, ?_, hcount, by simp only; omega⟩
    show (t.durations?.bind fun d => ((k :: keep).mapM fun k => d.dwells[k]?).bind fun dwells =>
      (((k :: keep).zip keep).mapM (t.directHop? d)).bind fun hops =>
        t.arrivals[k]?.bind fun first => some (first, Durations.mk dwells hops)) = _
    rw [hd, Option.bind_some, hdwells, Option.bind_some, hhops, Option.bind_some,
      List.getElem?_eq_getElem hk, Option.bind_some]

end Trip

/-- Each dwell changed or kept, as the stop in its place says. -/
def AdjustDwellTime.changedDwells (m : AdjustDwellTime) : List StopIndex → List Seconds →
    List Seconds :=
  List.zipWith fun s dwell => if m.selects s then m.newDwell dwell else dwell

theorem AdjustDwellTime.length_changedDwells (m : AdjustDwellTime) {stops : List StopIndex}
    {dwells : List Seconds} (h : dwells.length = stops.length) :
    (m.changedDwells stops dwells).length = stops.length := by
  unfold changedDwells
  rw [List.length_zipWith, h, Nat.min_self]

theorem AdjustDwellTime.newDwells?_eq (m : AdjustDwellTime) {stops : List StopIndex}
    {dwells : List Seconds} (h : dwells.length = stops.length) :
    m.newDwells? stops dwells = some (m.changedDwells stops dwells) := by
  induction stops generalizing dwells with
  | nil =>
    rw [List.length_eq_zero_iff.1 h]
    rfl
  | cons s stops ih =>
    cases dwells with
    | nil => cases h
    | cons dwell dwells =>
      unfold AdjustDwellTime.newDwells?
      rw [ih (Nat.succ.inj h)]
      rfl

/-! ## Revisions -/

/-- A revision turns an accepted trip into an accepted trip, or fails for another reason than that
the times cannot be read. -/
def Revises (f : List StopIndex → Trip → Except NetworkError Trip) : Prop :=
  ∀ (stops : List StopIndex) (t : Trip), t.validate stops.length = .ok () →
    Yields (f stops t) (fun t' => t'.validate stops.length = .ok ()) fun e => ¬e.Unreadable

/-- Laying out again, inside the service window. -/
theorem Trip.rebuild_yields (id : String) (first : Seconds) (d : Durations) :
    Yields (Trip.rebuild id first d) (fun t => t.validate d.dwells.length = .ok ())
      fun e => ¬e.Unreadable := by
  unfold Trip.rebuild
  refine Yields.bind (Trip.build_yields id first d) fun trip htrip => ?_
  by_cases hlate : serviceWindow < trip.finish
  · simp only [if_pos hlate]
    exact not_false
  · simp only [if_neg hlate]
    exact htrip

/-- A trip that was laid out again is what its durations describe, and ends inside the service
window. -/
theorem Trip.tells_of_rebuild {t : Trip} {id : String} {first : Seconds} {d : Durations}
    (hmatched : d.Matched) (h : Trip.rebuild id first d = .ok t) :
    t.Tells id first d ∧ t.finish ≤ serviceWindow := by
  obtain ⟨trip, hbuild, h⟩ := Yields.ok_of_bind h
  by_cases hlate : serviceWindow < trip.finish
  · simp only [if_pos hlate] at h
    cases h
  · simp only [if_neg hlate] at h
    cases h
    obtain ⟨t', hbuild', htells, -⟩ | ⟨k, hfails, -⟩ := Trip.build_cases id first hmatched
    · obtain rfl : t' = t := Except.ok.inj (hbuild'.symm.trans hbuild)
      exact ⟨htells, UInt32.not_lt.1 hlate⟩
    · rw [hfails] at hbuild
      cases hbuild

/-- An accepted trip that calls at ascending positions only is again accepted. -/
theorem Trip.skip_eq_ok {t : Trip} {stops : Nat} (h : t.validate stops = .ok ()) {keep : List Nat}
    (hascending : keep.Pairwise (· < ·)) (hbounds : ∀ k ∈ keep, k < stops) (hkeep : keep ≠ []) :
    ∃ t', t.skip keep = .ok t' ∧ t'.validate keep.length = .ok () := by
  obtain ⟨first, d, hskip, hdwells, htotal⟩ := Trip.skip?_isSome h hascending hbounds hkeep
  obtain ⟨times, htimes⟩ := layOut_isOk (i := 0) htotal
  have hbuild : t.skip keep = .ok ⟨t.id, times.1, times.2⟩ := by
    unfold Trip.skip
    rw [hskip]
    simp only [build, ofDurations, htimes]
    rfl
  obtain ⟨hforward, hlength, -⟩ := forward_of_layOut htimes
  exact ⟨_, hbuild, validate_iff.2 ⟨hforward, hlength.trans hdwells⟩⟩

theorem AdjustSpeed.rescale_eq (m : AdjustSpeed) (stops : List StopIndex) {t : Trip}
    {d : Durations} (hd : t.durations? = some d) :
    m.rescale stops t = Trip.rebuild t.id t.start
      { d with hops := d.hops.map (·.scale (1.0 / m.scale)) } := by
  unfold AdjustSpeed.rescale Trip.durations
  simp only [hd, bind, Except.bind]

theorem revises_rescale (m : AdjustSpeed) : Revises m.rescale := by
  intro stops t h
  obtain ⟨d, hd, hdwells⟩ := Trip.durations?_isSome h
  rw [m.rescale_eq stops hd, ← hdwells]
  exact Trip.rebuild_yields t.id t.start _

theorem AdjustDwellTime.redwell_eq (m : AdjustDwellTime) {stops : List StopIndex} {t : Trip}
    (h : t.validate stops.length = .ok ()) {d : Durations} (hd : t.durations? = some d) :
    m.redwell stops t =
      Trip.rebuild t.id t.start { d with dwells := m.changedDwells stops d.dwells } := by
  obtain ⟨d', hd', hdwells⟩ := Trip.durations?_isSome h
  obtain rfl : d' = d := Option.some.inj (hd'.symm.trans hd)
  unfold AdjustDwellTime.redwell Trip.durations
  simp only [hd, bind, Except.bind, m.newDwells?_eq hdwells]

theorem revises_redwell (m : AdjustDwellTime) : Revises m.redwell := by
  intro stops t h
  obtain ⟨d, hd, hdwells⟩ := Trip.durations?_isSome h
  rw [m.redwell_eq h hd, ← m.length_changedDwells hdwells]
  exact Trip.rebuild_yields t.id t.start _

end Multimodal
