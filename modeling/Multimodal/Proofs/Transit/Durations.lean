import Multimodal.Proofs.Transit.TripTimes

/-! # Two views of a trip

A trip can be told by its times or by its first arrival, its dwells and its hops.  Taking accepted
times apart and laying the durations out again gives the times back.  The other way round durations
can be laid out unless they go on when the clock has ended, and then they are what the times are
taken apart into.

* `Durations.Matched`: there is a hop between neighbours and nowhere else.
* `Durations.leaving`, `Durations.Overflows`: the running total, and the stop where it gets too large.
* `Trip.Tells`: the trip that some durations describe.
* `layOut_of_forward`, `layOut_cases`: the one way round and the other.
* `Trip.times_and_durations`: both together.
-/

namespace Multimodal

namespace Seconds

theorem size_le_of_add? {a b : Seconds} (h : add? a b = none) :
    UInt32.size ≤ a.toNat + b.toNat := by
  by_contra hlt
  rw [add?_of_lt (Nat.not_le.1 hlt)] at h
  cases h

theorem add?_of_elapsed {a b : Seconds} (h : a ≤ b) : add? a (b - a) = some b := by
  have hb := toNat_elapsed h
  have hsum : a.toNat + (b - a).toNat < UInt32.size := hb ▸ UInt32.toNat_lt b
  rw [add?_of_lt hsum]
  refine congrArg some (UInt32.toNat_inj.1 ?_)
  rw [UInt32.toNat_add, Nat.mod_eq_of_lt hsum, hb]

/-- What is added is what passes. -/
theorem sub_eq_of_add? {a b c : Seconds} (h : add? a b = some c) : c - a = b := by
  refine UInt32.toNat_inj.1 ?_
  have hc := toNat_add? h
  have hsub := toNat_elapsed (le_of_add? h)
  omega

end Seconds

/-! ## Running totals -/

namespace Durations

/-- There is one hop fewer than there are dwells, and none without dwells. -/
def Matched (d : Durations) : Prop := d.hops.length = d.dwells.length - 1

instance (d : Durations) : Decidable d.Matched := inferInstanceAs (Decidable (_ = _))

/-- The seconds after midnight at which a stop is left, on a clock without an end. -/
def leaving (d : Durations) (first : Seconds) (k : Nat) : Nat :=
  first.toNat + Seconds.total (d.dwells.take (k + 1)) + Seconds.total (d.hops.take k)

/-- This is the first stop at which the running total is no time any more. -/
structure Overflows (d : Durations) (first : Seconds) (k : Nat) : Prop where
  inside : k < d.dwells.length
  late : UInt32.size ≤ d.leaving first k
  before : ∀ j < k, d.leaving first j < UInt32.size

variable {dwell hop first reached departure : Seconds} {dwells hops : List Seconds}

theorem leaving_zero : leaving ⟨dwell :: dwells, hops⟩ first 0 = first.toNat + dwell.toNat := by
  simp [leaving]

/-- The running total may be counted from the next stop on. -/
theorem leaving_succ (hleave : Seconds.add? first dwell = some departure)
    (hreach : Seconds.add? departure hop = some reached) (k : Nat) :
    leaving ⟨dwell :: dwells, hop :: hops⟩ first (k + 1) = leaving ⟨dwells, hops⟩ reached k := by
  have hdeparture := Seconds.toNat_add? hleave
  have hreached := Seconds.toNat_add? hreach
  unfold leaving
  simp only [List.take_succ_cons, Seconds.total_cons]
  omega

/-- Where the running total gets too large, the whole is too large. -/
theorem Overflows.size_le_total {d : Durations} {k : Nat} (h : d.Overflows first k) :
    UInt32.size ≤ first.toNat + Seconds.total d.dwells + Seconds.total d.hops := by
  have hlate := h.late
  have hdwells := Seconds.total_take_le d.dwells (k + 1)
  have hhops := Seconds.total_take_le d.hops k
  unfold leaving at hlate
  omega

theorem Overflows.later (hleave : Seconds.add? first dwell = some departure)
    (hreach : Seconds.add? departure hop = some reached) {k : Nat}
    (h : Overflows ⟨dwells, hops⟩ reached k) :
    Overflows ⟨dwell :: dwells, hop :: hops⟩ first (k + 1) where
  inside := Nat.succ_lt_succ h.inside
  late := leaving_succ hleave hreach k ▸ h.late
  before j hj := by
    cases j with
    | zero =>
      rw [leaving_zero, ← Seconds.toNat_add? hleave]
      exact UInt32.toNat_lt departure
    | succ j =>
      rw [leaving_succ hleave hreach]
      exact h.before j (Nat.lt_of_succ_lt_succ hj)

end Durations

namespace Trip

/-! ## From times to durations and back -/

theorem matched_of_split {arrivals departures : List Seconds} (h : Forward arrivals departures)
    {d : Durations} (hd : splitTimes? arrivals departures = some d) :
    d.dwells.length = arrivals.length ∧ d.Matched := by
  obtain ⟨d', hd', hdwells, hhops⟩ := splitTimes?_of_forward h
  obtain rfl : d' = d := Option.some.inj (hd'.symm.trans hd)
  exact ⟨hdwells, hhops.trans (by rw [hdwells])⟩

theorem matched_of_durations? {t : Trip} {stops : Nat} (h : t.validate stops = .ok ())
    {d : Durations} (hd : t.durations? = some d) : d.dwells.length = stops ∧ d.Matched := by
  obtain ⟨hforward, hlength⟩ := validate_iff.1 h
  obtain ⟨hdwells, hmatched⟩ := matched_of_split hforward hd
  exact ⟨hdwells.trans hlength, hmatched⟩

/-- Laying out the durations of times that run forward gives the times. -/
theorem layOut_of_forward {arrivals departures : List Seconds} (h : Forward arrivals departures)
    {d : Durations} (hd : splitTimes? arrivals departures = some d) (i : Nat) :
    layOut i (arrivals.head?.getD 0) d.dwells d.hops = .ok (arrivals, departures) := by
  induction h generalizing d i with
  | nil =>
    cases hd
    rfl
  | @last arrival departure hdwell =>
    obtain rfl := splitTimes?_last hdwell hd
    show layOut i arrival _ _ = _
    rw [layOut, Seconds.add?_of_elapsed hdwell]
    rfl
  | @cons arrival departure next arrivals departures hdwell hhop _ ih =>
    obtain ⟨rest, hrest, rfl⟩ := splitTimes?_cons hdwell hhop hd
    have hlater : layOut (i + 1) next rest.dwells rest.hops = .ok (next :: arrivals, departures) :=
      ih hrest (i + 1)
    show layOut i arrival _ _ = _
    rw [layOut, Seconds.add?_of_elapsed hdwell]
    simp only [Seconds.add?_of_elapsed hhop, hlater]
    rfl

/-! ## From durations to times and back -/

theorem splitTimes?_last_of_add? {arrival departure dwell : Seconds}
    (h : Seconds.add? arrival dwell = some departure) :
    splitTimes? [arrival] [departure] = some ⟨[dwell], []⟩ := by
  rw [splitTimes?, Seconds.elapsed?_of_le (Seconds.le_of_add? h), Seconds.sub_eq_of_add? h]
  rfl

theorem splitTimes?_cons_of_add? {arrival departure next dwell hop : Seconds}
    {arrivals departures : List Seconds} {rest : Durations}
    (hleave : Seconds.add? arrival dwell = some departure)
    (hreach : Seconds.add? departure hop = some next)
    (hrest : splitTimes? (next :: arrivals) departures = some rest) :
    splitTimes? (arrival :: next :: arrivals) (departure :: departures) =
      some ⟨dwell :: rest.dwells, hop :: rest.hops⟩ := by
  rw [splitTimes?, Seconds.elapsed?_of_le (Seconds.le_of_add? hleave), Seconds.sub_eq_of_add? hleave]
  show (Seconds.elapsed? departure next).bind _ = _
  rw [Seconds.elapsed?_of_le (Seconds.le_of_add? hreach), Seconds.sub_eq_of_add? hreach]
  show (splitTimes? (next :: arrivals) departures).bind _ = _
  rw [hrest]
  rfl

/-- Durations that match are laid out into times that are taken apart into them, and then they end
before the clock does; or their running total gets too large, and the first stop where it does is
named. -/
theorem layOut_cases (i : Nat) (first : Seconds) {dwells hops : List Seconds}
    (h : Durations.Matched ⟨dwells, hops⟩) :
    (∃ times, layOut i first dwells hops = .ok times ∧
      splitTimes? times.1 times.2 = some ⟨dwells, hops⟩ ∧
      first.toNat + Seconds.total dwells + Seconds.total hops < UInt32.size) ∨
    ∃ k, layOut i first dwells hops = .error (.overflow (i + k)) ∧
      Durations.Overflows ⟨dwells, hops⟩ first k := by
  unfold Durations.Matched at h
  -- the first dwell, then the hop that follows it if there is another stop, then the rest
  induction dwells generalizing i first hops with
  | nil =>
    obtain rfl := List.length_eq_zero_iff.1 h
    exact .inl ⟨([], []), rfl, rfl, UInt32.toNat_lt first⟩
  | cons dwell dwells ih =>
    rw [layOut]
    cases hleave : Seconds.add? first dwell with
    | none =>
      refine .inr ⟨0, rfl, Nat.zero_lt_succ _, ?_, fun j hj => absurd hj (Nat.not_lt_zero j)⟩
      rw [Durations.leaving_zero]
      exact Seconds.size_le_of_add? hleave
    | some departure =>
      have hdeparture := Seconds.toNat_add? hleave
      cases hops with
      | nil =>
        obtain rfl : dwells = [] := List.length_eq_zero_iff.1 h.symm
        refine .inl ⟨([first], [departure]), rfl, splitTimes?_last_of_add? hleave, ?_⟩
        have hclock : departure.toNat < UInt32.size := UInt32.toNat_lt departure
        simp only [Seconds.total_cons, Seconds.total_nil]
        omega
      | cons hop hops =>
        cases dwells with
        | nil => cases h
        | cons dwell' dwells =>
          cases hreach : Seconds.add? departure hop with
          | none =>
            refine .inr ⟨1, by simp only [hreach], by simp, ?_, fun j hj => ?_⟩
            · have hover := Seconds.size_le_of_add? hreach
              simp only [Durations.leaving, List.take_succ_cons, List.take_zero, Seconds.total_cons,
                Seconds.total_nil]
              omega
            · obtain rfl : j = 0 := Nat.lt_one_iff.1 hj
              rw [Durations.leaving_zero, ← hdeparture]
              exact UInt32.toNat_lt departure
          | some next =>
            have hnext := Seconds.toNat_add? hreach
            obtain ⟨times, htimes, hsplit, hend⟩ | ⟨k, hfails, hover⟩ :=
              ih (i + 1) next (Nat.succ.inj h)
            · obtain ⟨later, hlater⟩ :=
                (forward_of_layOut htimes).2.2 (List.cons_ne_nil dwell' dwells)
              refine .inl ⟨(first :: times.1, departure :: times.2), ?_, ?_, ?_⟩
              · simp only [hreach, htimes]
                rfl
              · rw [hlater] at hsplit ⊢
                exact splitTimes?_cons_of_add? hleave hreach hsplit
              · rw [Seconds.total_cons dwell, Seconds.total_cons hop]
                omega
            · refine .inr ⟨k + 1, ?_, hover.later hleave hreach⟩
              simp only [hreach, hfails]
              exact congrArg (fun j => Except.error (TripProblem.overflow j)) (by omega)

/-! ## Whole trips -/

/-- The trip has this id, starts at this time and takes these durations. -/
structure Tells (t : Trip) (id : String) (first : Seconds) (d : Durations) : Prop where
  id : t.id = id
  accepted : t.validate d.dwells.length = .ok ()
  start : d.dwells ≠ [] → t.arrivals.head? = some first
  durations : t.durations? = some d

/-- Building a trip succeeds if the durations end before the clock does, and else names the stop where
they do not. -/
theorem build_cases (id : String) (first : Seconds) {d : Durations} (h : d.Matched) :
    (∃ t, build id first d = .ok t ∧ t.Tells id first d ∧
      first.toNat + Seconds.total d.dwells + Seconds.total d.hops < UInt32.size) ∨
    ∃ k, build id first d = .error (.invalidTrip id (.overflow k)) ∧ d.Overflows first k := by
  unfold build ofDurations
  obtain ⟨times, htimes, hsplit, hend⟩ | ⟨k, hfails, hover⟩ := layOut_cases 0 first h
  · obtain ⟨hforward, hlength, hfirst⟩ := forward_of_layOut htimes
    refine .inl ⟨⟨id, times.1, times.2⟩, by rw [htimes]; rfl, ?_, hend⟩
    refine ⟨rfl, validate_iff.2 ⟨hforward, hlength⟩, fun hne => ?_, hsplit⟩
    obtain ⟨later, hlater⟩ := hfirst hne
    simp only [hlater, List.head?_cons]
  · refine .inr ⟨k, ?_, hover⟩
    rw [hfails, Nat.zero_add]
    rfl

/-- An accepted trip is what its durations describe. -/
theorem build_durations {t : Trip} {stops : Nat} (h : t.validate stops = .ok ()) {d : Durations}
    (hd : t.durations? = some d) : build t.id t.start d = .ok t := by
  unfold build ofDurations start
  rw [layOut_of_forward (validate_iff.1 h).1 hd 0]
  rfl

/-- Times and durations are two views of a trip: an accepted trip comes back from its start and its
durations; and durations describe a trip exactly if they end before the clock does, the error naming
the first stop at which they do not. -/
theorem times_and_durations :
    (∀ (t : Trip) (stops : Nat), t.validate stops = .ok () →
      ∃ d, t.durations? = some d ∧ d.dwells.length = stops ∧ d.Matched ∧
        build t.id t.start d = .ok t) ∧
    ∀ (id : String) (first : Seconds) (d : Durations), d.Matched →
      ((∃ t, build id first d = .ok t) ↔
        first.toNat + Seconds.total d.dwells + Seconds.total d.hops ≤ 2 ^ 32 - 1) ∧
      (∀ t, build id first d = .ok t → t.Tells id first d) ∧
      ∀ e, build id first d = .error e →
        ∃ k, e = .invalidTrip id (.overflow k) ∧ d.Overflows first k := by
  refine ⟨fun t stops h => ?_, fun id first d h => ?_⟩
  · obtain ⟨d, hd, -⟩ := splitTimes?_of_forward (validate_iff.1 h).1
    obtain ⟨hdwells, hmatched⟩ := matched_of_durations? h hd
    exact ⟨d, hd, hdwells, hmatched, build_durations h hd⟩
  · have hsize : UInt32.size = 2 ^ 32 := rfl
    obtain ⟨t, hbuild, htells, hend⟩ | ⟨k, hfails, hover⟩ := build_cases id first h
    · refine ⟨iff_of_true ⟨t, hbuild⟩ (by omega), fun t' ht' => ?_, fun e he => ?_⟩
      · obtain rfl : t = t' := Except.ok.inj (hbuild.symm.trans ht')
        exact htells
      · rw [hbuild] at he
        cases he
    · have htotal := hover.size_le_total
      refine ⟨iff_of_false ?_ (by omega), fun t ht => ?_, fun e he => ?_⟩
      · rintro ⟨t, ht⟩
        rw [hfails] at ht
        cases ht
      · rw [hfails] at ht
        cases ht
      · rw [hfails] at he
        cases he
        exact ⟨k, rfl, hover⟩

end Trip

namespace Sample

/-- A trip over three stops that waits at the first two. -/
def morningTrip : Trip := ⟨"t", [100, 200, 400], [110, 230, 400]⟩

/-- From six seconds before the end of the clock on, the second stop is reached in time and left too
late. -/
def longDwell : Durations := ⟨[0, 3, 0], [4, 1]⟩

/-- The trip comes back from its durations, and the durations that are too long are refused at the
second stop. -/
theorem times_and_durations_morningTrip :
    (morningTrip.validate 3 = .ok () ∧ morningTrip.durations? = some ⟨[10, 30, 0], [90, 170]⟩ ∧
      Trip.build "t" 100 ⟨[10, 30, 0], [90, 170]⟩ = .ok morningTrip) ∧
    longDwell.Matched ∧ (¬∃ t, Trip.build "t" 4294967290 longDwell = .ok t) ∧
      longDwell.Overflows 4294967290 1 := by
  have hvalid : morningTrip.validate 3 = .ok () := by decide
  have hsplit : morningTrip.durations? = some ⟨[10, 30, 0], [90, 170]⟩ := by decide
  have hmatched : longDwell.Matched := by decide
  obtain ⟨d, hd, -, -, hback⟩ := Trip.times_and_durations.1 morningTrip 3 hvalid
  obtain rfl : d = ⟨[10, 30, 0], [90, 170]⟩ := Option.some.inj (hd.symm.trans hsplit)
  obtain ⟨hfits, -, hrefused⟩ := Trip.times_and_durations.2 "t" 4294967290 longDwell hmatched
  refine ⟨⟨hvalid, hsplit, hback⟩, hmatched, ?_, ?_⟩
  · rw [hfits]
    decide
  · obtain ⟨k, he, hover⟩ := hrefused (.invalidTrip "t" (.overflow 1)) (by decide)
    cases he
    exact hover

end Sample

end Multimodal
