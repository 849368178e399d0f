import Multimodal.Proofs.Modification.Revision
import Multimodal.Proofs.Transit.Durations

/-! # Trips that skip stops

A trip that calls at some of its stops only starts when it used to reach the first of them.  It waits as
long as before wherever it calls, and between two calls it travels as long as all the hops between took.
So it is earlier by the dwells that it no longer makes.

* `Durations.saved`: the dwells that are not made any more up to some position.
* `Durations.CutTo`: the durations that are left, with `CutTo.total_hops` and `CutTo.total_dwells`.
* `Trip.Shortened`: what becomes of a trip.
* `Trip.skip_shortens`: every accepted trip can skip stops in this way.
-/

namespace Multimodal

/-! ## Lists of positions -/

theorem getElem?_of_mapM {α β : Type} {f : α → Option β} {l : List α} {bs : List β}
    (h : l.mapM f = some bs) : bs.length = l.length ∧
      ∀ (i : Nat) (a : α), l[i]? = some a → ∃ b, f a = some b ∧ bs[i]? = some b := by
  induction l generalizing bs with
  | nil =>
    cases h
    exact ⟨rfl, fun i a ha => by cases ha⟩
  | cons a l ih =>
    rw [List.mapM_cons] at h
    obtain ⟨b, hb, h⟩ := Option.bind_eq_some_iff.1 h
    obtain ⟨rest, hrest, h⟩ := Option.bind_eq_some_iff.1 h
    cases h
    obtain ⟨hlength, hlater⟩ := ih hrest
    refine ⟨congrArg (· + 1) hlength, fun i x hx => ?_⟩
    cases i with
    | zero =>
      cases hx
      exact ⟨b, hb, rfl⟩
    | succ i => exact hlater i x hx

/-- The members at positions in a row. -/
theorem filterMap_range' {α : Type} (l : List α) (start count : Nat) :
    (List.range' start count).filterMap (l[·]?) = (l.drop start).take count := by
  induction count generalizing start with
  | zero => rfl
  | succ count ih =>
    rw [List.range'_succ, List.filterMap_cons, ih]
    by_cases hstart : start < l.length
    · rw [List.getElem?_eq_getElem hstart, List.drop_eq_getElem_cons hstart, List.take_succ_cons]
    · have hend := Nat.not_lt.1 hstart
      rw [List.getElem?_eq_none hend, List.drop_eq_nil_of_le hend,
        List.drop_eq_nil_of_le (Nat.le_succ_of_le hend), List.take_nil, List.take_nil]

section Ascending

variable {keep : List Nat} {i a b k : Nat}

theorem lt_of_ascending (h : keep.Pairwise (· < ·)) (ha : keep[i]? = some a)
    (hb : keep[i + 1]? = some b) : a < b := by
  obtain ⟨hi, rfl⟩ := List.getElem?_eq_some_iff.1 ha
  obtain ⟨hi', rfl⟩ := List.getElem?_eq_some_iff.1 hb
  exact List.pairwise_iff_getElem.1 h i (i + 1) hi hi' (Nat.lt_succ_self i)

theorem head_le_of_ascending (h : keep.Pairwise (· < ·)) (hk : keep.head? = some k)
    (ha : keep[i]? = some a) : k ≤ a := by
  rw [List.head?_eq_getElem?] at hk
  obtain ⟨h0, rfl⟩ := List.getElem?_eq_some_iff.1 hk
  obtain ⟨hi, rfl⟩ := List.getElem?_eq_some_iff.1 ha
  cases i with
  | zero => exact Nat.le_refl _
  | succ i =>
    exact Nat.le_of_lt (List.pairwise_iff_getElem.1 h 0 (i + 1) h0 hi (Nat.zero_lt_succ i))

theorem not_mem_of_ascending (h : keep.Pairwise (· < ·)) (ha : keep[i]? = some a)
    (hb : keep[i + 1]? = some b) (hak : a < k) (hkb : k < b) : k ∉ keep := by
  intro hk
  obtain ⟨j, hj, rfl⟩ := List.getElem_of_mem hk
  obtain ⟨hi, rfl⟩ := List.getElem?_eq_some_iff.1 ha
  obtain ⟨hi', rfl⟩ := List.getElem?_eq_some_iff.1 hb
  have hlt := List.pairwise_iff_getElem.1 h
  rcases Nat.lt_trichotomy j i with hji | rfl | hij
  · exact Nat.lt_asymm hak (hlt j i hj hi hji)
  · exact Nat.lt_irrefl _ hak
  · rcases Nat.lt_or_eq_of_le hij with hnext | rfl
    · exact Nat.lt_asymm hkb (hlt (i + 1) j hi' hj hnext)
    · exact Nat.lt_irrefl _ hkb

end Ascending

/-! ## What is left of the durations -/

namespace Durations

/-- The time that is saved up to a position: the dwells at the positions before it that are not kept and
that come after the first kept one. -/
def saved (d : Durations) (keep : List Nat) (k : Nat) : Nat :=
  Seconds.total (((List.range k).filter fun j =>
    keep.head?.any (· < j) && j ∉ keep).filterMap (d.dwells[·]?))

/-- The second durations are left of the first when only some stops are kept: their dwells, and between
neighbours all the hops that were between them. -/
structure CutTo (d : Durations) (keep : List Nat) (d' : Durations) : Prop where
  length : d'.dwells.length = keep.length
  matched : d'.Matched
  dwells : ∀ i k : Nat, keep[i]? = some k →
    ∃ dwell, d'.dwells[i]? = some dwell ∧ d.dwells[k]? = some dwell
  hops : ∀ i a b : Nat, keep[i]? = some a → keep[i + 1]? = some b →
    ∃ hop, d'.hops[i]? = some hop ∧ hop.toNat = Seconds.total ((d.hops.drop a).take (b - a))

variable {d d' : Durations} {keep : List Nat} {first i a b k : Nat}

theorem saved_head (hfirst : keep.head? = some first) : d.saved keep first = 0 := by
  have hnone : ((List.range first).filter fun j => keep.head?.any (· < j) && j ∉ keep) = [] := by
    refine List.filter_eq_nil_iff.2 fun j hj hpass => ?_
    rw [hfirst] at hpass
    simp only [Option.any_some, Bool.and_eq_true, decide_eq_true_eq, List.mem_range] at hpass hj
    exact Nat.lt_asymm hj hpass.1
  unfold saved
  rw [hnone]
  rfl

/-- From one kept position to the next all dwells between are saved. -/
theorem saved_next (h : keep.Pairwise (· < ·)) (ha : keep[i]? = some a)
    (hb : keep[i + 1]? = some b) : d.saved keep b =
      d.saved keep a + Seconds.total ((d.dwells.drop (a + 1)).take (b - (a + 1))) := by
  have hab := lt_of_ascending h ha hb
  obtain ⟨first, hfirst⟩ := exists_head?_of_lt (List.getElem?_eq_some_iff.1 ha).1
  have hrange : List.range b = List.range a ++ a :: List.range' (a + 1) (b - (a + 1)) := by
    have hrow := @List.range'_append_1 0 a (b - (a + 1) + 1)
    rw [Nat.zero_add, show a + (b - (a + 1) + 1) = b by omega] at hrow
    rw [List.range_eq_range', List.range_eq_range', ← List.range'_succ, hrow]
  have hkept : (keep.head?.any (· < a) && decide (a ∉ keep)) = false := by
    rw [decide_eq_false (not_not_intro (List.mem_of_getElem? ha)), Bool.and_false]
  have hbetween : (List.range' (a + 1) (b - (a + 1))).filter
      (fun j => keep.head?.any (· < j) && j ∉ keep) = List.range' (a + 1) (b - (a + 1)) := by
    refine List.filter_eq_self.2 fun j hj => ?_
    rw [List.mem_range'_1] at hj
    have hout := not_mem_of_ascending h ha hb (k := j) (by omega) (by omega)
    have hle := head_le_of_ascending h hfirst ha
    have hlt : first < j := by omega
    rw [hfirst, Option.any_some, decide_eq_true hlt, decide_eq_true hout, Bool.and_self]
  unfold saved
  rw [hrange, List.filter_append, List.filter_cons_of_neg (by rw [hkept]; exact Bool.false_ne_true),
    hbetween, List.filterMap_append, filterMap_range', Seconds.total_append]

namespace CutTo

variable (h : d.CutTo keep d') (hascending : keep.Pairwise (· < ·))
include h hascending

/-- The hops that are left add up to those that there were. -/
theorem total_hops (hfirst : keep.head? = some first) (hk : keep[i]? = some k) :
    Seconds.total (d.hops.take first) + Seconds.total (d'.hops.take i) =
      Seconds.total (d.hops.take k) := by
  induction i generalizing k with
  | zero =>
    rw [List.head?_eq_getElem?, hk] at hfirst
    cases hfirst
    rfl
  | succ i ih =>
    have hi : i < keep.length := Nat.lt_of_succ_lt (List.getElem?_eq_some_iff.1 hk).1
    have hbefore := List.getElem?_eq_getElem hi
    obtain ⟨hop, hhop, htotal⟩ := h.hops i _ _ hbefore hk
    have hlt := lt_of_ascending hascending hbefore hk
    have hbetween := Seconds.total_take_add d.hops keep[i] (k - keep[i])
    rw [Nat.add_sub_cancel' (Nat.le_of_lt hlt)] at hbetween
    have hsucc := Seconds.total_take_succ hhop
    have hearlier := ih hbefore
    omega

/-- The dwells that are left and those that are saved add up to those that there were. -/
theorem total_dwells (hfirst : keep.head? = some first) (hk : keep[i]? = some k) :
    Seconds.total (d.dwells.take first) + Seconds.total (d'.dwells.take i) + d.saved keep k =
      Seconds.total (d.dwells.take k) := by
  induction i generalizing k with
  | zero =>
    rw [List.head?_eq_getElem?, hk] at hfirst
    cases hfirst
    rw [saved_head (List.head?_eq_getElem?.trans hk)]
    rfl
  | succ i ih =>
    have hi : i < keep.length := Nat.lt_of_succ_lt (List.getElem?_eq_some_iff.1 hk).1
    have hbefore := List.getElem?_eq_getElem hi
    obtain ⟨dwell, hleft, hdwell⟩ := h.dwells i _ hbefore
    have hlt := lt_of_ascending hascending hbefore hk
    have hbetween := Seconds.total_take_add d.dwells (keep[i] + 1) (k - (keep[i] + 1))
    rw [Nat.add_sub_cancel' hlt] at hbetween
    have hsucc := Seconds.total_take_succ hleft
    have hmade := Seconds.total_take_succ hdwell
    have hsaved := saved_next (d := d) hascending hbefore hk
    have hearlier := ih hbefore
    omega

end CutTo

end Durations

/-! ## What is left of a trip -/

namespace Trip

/-- What a trip with these durations becomes when it calls at some positions only.  It is accepted for
so many stops, starts when it used to reach the first of them, keeps their dwells and what hops there
are between them, and is earlier everywhere by the dwells that are saved; and between two calls there
is room for the dwells that are left out. -/
structure Shortened (t : Trip) (d : Durations) (keep : List Nat) (t' : Trip) (d' : Durations) :
    Prop where
  id : t'.id = t.id
  accepted : t'.validate keep.length = .ok ()
  durations : t'.durations? = some d'
  start : t'.arrivals.head? = keep.head?.bind (t.arrivals[·]?)
  cut : d.CutTo keep d'
  room : ∀ i a b : Nat, keep[i]? = some a → keep[i + 1]? = some b → t.RoomBetween d a b
  arrivals : ∀ i k : Nat, keep[i]? = some k → ∃ before after, t.arrivals[k]? = some before ∧
    t'.arrivals[i]? = some after ∧ after.toNat + d.saved keep k = before.toNat

variable {t t' : Trip} {d d' : Durations} {stops : Nat} {keep : List Nat}

/-- The arrivals follow from the start and the durations. -/
theorem Shortened.of_cut (h : t.validate stops = .ok ()) (hd : t.durations? = some d)
    (hascending : keep.Pairwise (· < ·)) (hbounds : ∀ k ∈ keep, k < stops) (hid : t'.id = t.id)
    (haccepted : t'.validate keep.length = .ok ()) (hd' : t'.durations? = some d')
    (hstart : t'.arrivals.head? = keep.head?.bind (t.arrivals[·]?)) (hcut : d.CutTo keep d') :
    t.Shortened d keep t' d' where
  id := hid
  accepted := haccepted
  durations := hd'
  start := hstart
  cut := hcut
  room i a b ha hb :=
    roomBetween h hd (lt_of_ascending hascending ha hb) (hbounds b (List.mem_of_getElem? hb))
  arrivals i k hk := by
    obtain ⟨hforward, hlength⟩ := validate_iff.1 h
    obtain ⟨hforward', hlength'⟩ := validate_iff.1 haccepted
    have hi : i < keep.length := (List.getElem?_eq_some_iff.1 hk).1
    have hkt : k < t.arrivals.length := hlength ▸ hbounds k (List.mem_of_getElem? hk)
    have hit : i < t'.arrivals.length := hlength' ▸ hi
    refine ⟨_, _, List.getElem?_eq_getElem hkt, List.getElem?_eq_getElem hit, ?_⟩
    -- both trips are told from their starts, the start of the second by the first trip
    obtain ⟨j, hj⟩ := exists_head?_of_lt hi
    have hjt : j < t.arrivals.length := hlength ▸ hbounds j (List.mem_of_head? hj)
    obtain ⟨first, hfirst⟩ := exists_head?_of_lt hkt
    have hfirst' : t'.arrivals.head? = some t.arrivals[j] := by
      rw [hstart, hj, Option.bind_some, List.getElem?_eq_getElem hjt]
    have hbefore := (times_eq hforward hd hfirst k).1 _ (List.getElem?_eq_getElem hkt)
    have hbegin := (times_eq hforward hd hfirst j).1 _ (List.getElem?_eq_getElem hjt)
    have hafter := (times_eq hforward' hd' hfirst' i).1 _ (List.getElem?_eq_getElem hit)
    have hhops := hcut.total_hops hascending hj hk
    have hdwells := hcut.total_dwells hascending hj hk
    omega

theorem skip?_eq_some {first : Seconds} (h : t.skip? keep = some (first, d')) :
    ∃ d j, t.durations? = some d ∧ keep.mapM (fun k => d.dwells[k]?) = some d'.dwells ∧
      (keep.zip keep.tail).mapM (t.directHop? d) = some d'.hops ∧ keep.head? = some j ∧
      t.arrivals[j]? = some first := by
  obtain ⟨d, hd, h⟩ := Option.bind_eq_some_iff.1 h
  obtain ⟨dwells, hdwells, h⟩ := Option.bind_eq_some_iff.1 h
  obtain ⟨hops, hhops, h⟩ := Option.bind_eq_some_iff.1 h
  obtain ⟨j, hj, h⟩ := Option.bind_eq_some_iff.1 h
  obtain ⟨start, hstart, h⟩ := Option.bind_eq_some_iff.1 h
  cases h
  exact ⟨d, j, hd, hdwells, hhops, hj, hstart⟩

/-- What is read of an accepted trip that skips stops is what is left of its durations. -/
theorem cutTo_of_skip? (h : t.validate stops = .ok ()) (hd : t.durations? = some d)
    (hascending : keep.Pairwise (· < ·)) (hbounds : ∀ k ∈ keep, k < stops)
    (hdwells : keep.mapM (fun k => d.dwells[k]?) = some d'.dwells)
    (hhops : (keep.zip keep.tail).mapM (t.directHop? d) = some d'.hops) : d.CutTo keep d' := by
  obtain ⟨hdwellCount, hdwellAt⟩ := getElem?_of_mapM hdwells
  obtain ⟨hhopCount, hhopAt⟩ := getElem?_of_mapM hhops
  refine ⟨hdwellCount, ?_, fun i k hk => ?_, fun i a b ha hb => ?_⟩
  · show d'.hops.length = d'.dwells.length - 1
    rw [hhopCount, hdwellCount, List.length_zip, List.length_tail]
    exact Nat.min_eq_right (Nat.sub_le _ _)
  · obtain ⟨dwell, hdwell, hleft⟩ := hdwellAt i k hk
    exact ⟨dwell, hleft, hdwell⟩
  · have hpair : (keep.zip keep.tail)[i]? = some (a, b) :=
      List.getElem?_zip_eq_some.2 ⟨ha, by rwa [List.getElem?_tail]⟩
    obtain ⟨hop, hhop, hleft⟩ := hhopAt i (a, b) hpair
    obtain ⟨hop', hhop', htotal⟩ := directHop?_eq h hd (lt_of_ascending hascending ha hb)
      (hbounds b (List.mem_of_getElem? hb))
    obtain rfl : hop = hop' := Option.some.inj (hhop.symm.trans hhop')
    exact ⟨hop, hleft, htotal⟩

/-- What an accepted trip becomes that calls at ascending positions only. -/
theorem shortened_of_skip (h : t.validate stops = .ok ()) (hascending : keep.Pairwise (· < ·))
    (hbounds : ∀ k ∈ keep, k < stops) (hkeep : keep ≠ []) (ht' : t.skip keep = .ok t') :
    ∃ d d', t.durations? = some d ∧ t.Shortened d keep t' d' := by
  obtain ⟨first, d', hskip, hlength, -⟩ := skip?_isSome h hascending hbounds hkeep
  obtain ⟨d, j, hd, hdwells, hhops, hj, hfirst⟩ := skip?_eq_some hskip
  have hcut := cutTo_of_skip? h hd hascending hbounds hdwells hhops
  have hbuild : build t.id first d' = .ok t' := by
    unfold skip at ht'
    rwa [hskip] at ht'
  obtain ⟨t'', hbuild', htells, -⟩ | ⟨k, hfails, -⟩ := build_cases t.id first hcut.matched
  · obtain rfl : t' = t'' := Except.ok.inj (hbuild.symm.trans hbuild')
    have hne : d'.dwells ≠ [] := List.ne_nil_of_length_pos
      (hlength ▸ List.length_pos_iff.2 hkeep)
    have hstart : t'.arrivals.head? = keep.head?.bind (t.arrivals[·]?) := by
      rw [htells.start hne, hj, Option.bind_some, hfirst]
    exact ⟨d, d', hd, Shortened.of_cut h hd hascending hbounds htells.id
      (hlength ▸ htells.accepted) htells.durations hstart hcut⟩
  · rw [hbuild] at hfails
    cases hfails

/-- An accepted trip that calls at ascending positions only, one at least, is shortened by exactly the
dwells that it no longer makes. -/
theorem skip_shortens (h : t.validate stops = .ok ()) (hascending : keep.Pairwise (· < ·))
    (hbounds : ∀ k ∈ keep, k < stops) (hkeep : keep ≠ []) :
    ∃ d t' d', t.durations? = some d ∧ t.skip keep = .ok t' ∧ t.Shortened d keep t' d' := by
  obtain ⟨t', hskip, -⟩ := skip_eq_ok h hascending hbounds hkeep
  obtain ⟨d, d', hd, hshortened⟩ := shortened_of_skip h hascending hbounds hkeep hskip
  exact ⟨d, t', d', hd, hskip, hshortened⟩

end Trip

namespace Sample

/-- A trip over six stops with a dwell at each. -/
def longTrip : Trip :=
  ⟨"long", [100, 210, 330, 460, 600, 750], [110, 230, 360, 500, 650, 760]⟩

/-- The first stop, two in a row and the last one are skipped; the dwells of the two are saved. -/
theorem skip_shortens_longTrip :
    longTrip.validate 6 = .ok () ∧
      longTrip.skip [1, 4] = .ok ⟨"long", [210, 530], [230, 580]⟩ ∧
      ∃ d', longTrip.Shortened ⟨[10, 20, 30, 40, 50, 10], [100, 100, 100, 100, 100]⟩ [1, 4]
        ⟨"long", [210, 530], [230, 580]⟩ d' := by
  have hvalid : longTrip.validate 6 = .ok () := by decide
  have hsplit : longTrip.durations? =
      some ⟨[10, 20, 30, 40, 50, 10], [100, 100, 100, 100, 100]⟩ := by decide
  have hskip : longTrip.skip [1, 4] = .ok ⟨"long", [210, 530], [230, 580]⟩ := by decide
  have hascending : [1, 4].Pairwise (· < ·) := by decide
  obtain ⟨d, t', d', hd, ht', hshortened⟩ :=
    Trip.skip_shortens hvalid hascending (by decide) (by decide)
  obtain rfl := Option.some.inj (hd.symm.trans hsplit)
  obtain rfl := Except.ok.inj (ht'.symm.trans hskip)
  exact ⟨hvalid, hskip, d', hshortened⟩

end Sample

end Multimodal
