import Multimodal.Network.Error
import Multimodal.Proofs.Effect

/-! # Times that run forward

A trip is accepted when its times run forward, and such times split into dwells and hops without a
difference of times ever becoming negative.  Durations that are laid out give times that run forward.

* `Forward`: every stop is left after it is reached, and reached after the one before is left.
* `Trip.validate_iff`: which trips are accepted.
* `splitTimes?_of_forward`, `times_eq`: the durations of such a trip, and its times told by them.
* `layOut_isOk`: durations that end before the clock does can be laid out.
* `NetworkError.Unreadable`: the error of a trip whose times cannot be taken apart.
* `Trip.build_yields`: what laying out durations gives.
-/

namespace Multimodal

/-! ## Differences and sums of times -/

namespace Seconds

theorem elapsed?_of_le {a b : Seconds} (h : a ≤ b) : elapsed? a b = some (b - a) := if_pos h

theorem toNat_elapsed {a b : Seconds} (h : a ≤ b) : a.toNat + (b - a).toNat = b.toNat := by
  rw [UInt32.toNat_sub_of_le b a h]
  have hnat : a.toNat ≤ b.toNat := UInt32.le_iff_toNat_le.1 h
  omega

theorem toNat_add? {a b c : Seconds} (h : add? a b = some c) :
    c.toNat = a.toNat + b.toNat := by
  unfold add? at h
  by_cases hfits : a.toNat + b.toNat < UInt32.size
  · rw [if_pos hfits] at h
    cases h
    rw [UInt32.toNat_add, Nat.mod_eq_of_lt hfits]
  · rw [if_neg hfits] at h
    cases h

theorem le_of_add? {a b c : Seconds} (h : add? a b = some c) : a ≤ c := by
  rw [UInt32.le_iff_toNat_le, toNat_add? h]
  exact Nat.le_add_right _ _

theorem add?_of_lt {a b : Seconds} (h : a.toNat + b.toNat < UInt32.size) :
    add? a b = some (a + b) := if_pos h

/-- The seconds that some lengths of time make together. -/
def total (l : List Seconds) : Nat := (l.map UInt32.toNat).sum

@[simp] theorem total_nil : total [] = 0 := rfl

@[simp] theorem total_cons (a : Seconds) (l : List Seconds) : total (a :: l) = a.toNat + total l := by
  unfold total
  rw [List.map_cons, List.sum_cons]

theorem total_append (l l' : List Seconds) : total (l ++ l') = total l + total l' := by
  unfold total
  rw [List.map_append, List.sum_append]

/-- What is between two positions, added to what is before the first one. -/
theorem total_take_add (l : List Seconds) (i n : Nat) :
    total (l.take i) + total ((l.drop i).take n) = total (l.take (i + n)) := by
  rw [List.take_add, total_append]

theorem total_take_succ {l : List Seconds} {i : Nat} {a : Seconds} (h : l[i]? = some a) :
    total (l.take (i + 1)) = total (l.take i) + a.toNat := by
  rw [List.take_add_one, h, total_append]
  rfl

theorem total_take_mono (l : List Seconds) {i j : Nat} (h : i ≤ j) :
    total (l.take i) ≤ total (l.take j) := by
  have hsplit := total_take_add l i (j - i)
  rw [Nat.add_sub_cancel' h] at hsplit
  omega

theorem total_take_le (l : List Seconds) (i : Nat) : total (l.take i) ≤ total l := by
  have hsplit := total_append (l.take i) (l.drop i)
  rw [List.take_append_drop] at hsplit
  omega

theorem toNat_sum? {l : List Seconds} {s : Seconds} (h : sum? l = some s) : s.toNat = total l := by
  induction l generalizing s with
  | nil =>
    cases h
    rfl
  | cons a l ih =>
    unfold sum? at h
    obtain ⟨rest, hrest, hadd⟩ := Option.bind_eq_some_iff.1 h
    rw [toNat_add? hadd, ih hrest, total_cons]

theorem sum?_isSome {l : List Seconds} (h : total l < UInt32.size) :
    ∃ s, sum? l = some s ∧ s.toNat = total l := by
  induction l with
  | nil => exact ⟨0, rfl, rfl⟩
  | cons a l ih =>
    rw [total_cons] at h
    obtain ⟨s, hs, hnat⟩ := ih (by omega)
    have hadd : add? a s = some (a + s) := add?_of_lt (by omega)
    have hsum : sum? (a :: l) = some (a + s) := by
      unfold sum?
      rw [hs]
      exact hadd
    exact ⟨a + s, hsum, toNat_sum? hsum⟩

end Seconds

namespace Trip

/-! ## Times in order -/

/-- Arrivals and departures in the order in which they happen. -/
inductive Forward : List Seconds → List Seconds → Prop
  | nil : Forward [] []
  | last {arrival departure : Seconds} : arrival ≤ departure → Forward [arrival] [departure]
  | cons {arrival departure next : Seconds} {arrivals departures : List Seconds} :
    arrival ≤ departure → departure ≤ next → Forward (next :: arrivals) departures →
      Forward (arrival :: next :: arrivals) (departure :: departures)

namespace Forward

theorem length_eq {arrivals departures : List Seconds} (h : Forward arrivals departures) :
    arrivals.length = departures.length := by
  induction h with
  | nil => rfl
  | last _ => rfl
  | cons _ _ _ ih => exact congrArg (· + 1) ih

theorem firstBackward? {arrivals departures : List Seconds} (h : Forward arrivals departures)
    (i : Nat) : firstBackward? i arrivals departures = none := by
  induction h generalizing i with
  | nil => rfl
  | last hdwell =>
    unfold Trip.firstBackward?
    rw [if_neg (UInt32.not_lt.2 hdwell)]
    rfl
  | @cons arrival departure next arrivals departures hdwell hhop _ ih =>
    unfold Trip.firstBackward?
    have hnext : ¬((next :: arrivals).head?.any (· < departure)) = true := by
      simpa using UInt32.not_lt.2 hhop
    rw [if_neg (UInt32.not_lt.2 hdwell), if_neg hnext]
    exact ih (i + 1)

/-- Equally many times of which none runs backward. -/
theorem of_firstBackward? {i : Nat} {arrivals departures : List Seconds}
    (hlength : arrivals.length = departures.length)
    (h : Trip.firstBackward? i arrivals departures = none) : Forward arrivals departures := by
  induction arrivals generalizing i departures with
  | nil =>
    rw [List.length_eq_zero_iff.1 hlength.symm]
    exact nil
  | cons arrival arrivals ih =>
    cases departures with
    | nil => cases hlength
    | cons departure departures =>
      unfold Trip.firstBackward? at h
      by_cases hdwell : departure < arrival
      · rw [if_pos hdwell] at h
        cases h
      · by_cases hhop : (arrivals.head?.any (· < departure)) = true
        · rw [if_neg hdwell, if_pos hhop] at h
          cases h
        · rw [if_neg hdwell, if_neg hhop] at h
          have hrest : Forward arrivals departures := ih (Nat.succ.inj hlength) h
          cases arrivals with
          | nil =>
            rw [List.length_eq_zero_iff.1 (Nat.succ.inj hlength).symm]
            exact last (UInt32.not_lt.1 hdwell)
          | cons next arrivals =>
            have hnext : departure ≤ next := by simpa using hhop
            exact cons (UInt32.not_lt.1 hdwell) hnext hrest

end Forward

/-- A trip is accepted if it has times for every stop and they run forward. -/
theorem validate_iff {t : Trip} {stops : Nat} :
    t.validate stops = .ok () ↔ Forward t.arrivals t.departures ∧ t.arrivals.length = stops := by
  unfold validate problem?
  by_cases hlength : t.arrivals.length = stops ∧ t.departures.length = stops
  · rw [if_pos hlength]
    constructor
    · intro h
      cases hback : Trip.firstBackward? 0 t.arrivals t.departures with
      | none =>
        exact ⟨Forward.of_firstBackward? (hlength.1.trans hlength.2.symm) hback, hlength.1⟩
      | some problem =>
        rw [hback] at h
        cases h
    · rintro ⟨hforward, -⟩
      rw [hforward.firstBackward? 0]
  · rw [if_neg hlength]
    constructor
    · intro h
      cases h
    · rintro ⟨hforward, hcount⟩
      exact absurd ⟨hcount, hforward.length_eq ▸ hcount⟩ hlength

/-! ## Taking times apart -/

/-- Times that run forward have a dwell for every stop and a hop between neighbours. -/
theorem splitTimes?_of_forward {arrivals departures : List Seconds}
    (h : Forward arrivals departures) :
    ∃ d, splitTimes? arrivals departures = some d ∧ d.dwells.length = arrivals.length ∧
      d.hops.length = arrivals.length - 1 := by
  induction h with
  | nil => exact ⟨⟨[], []⟩, rfl, rfl, rfl⟩
  | @last arrival departure hdwell =>
    refine ⟨⟨[departure - arrival], []⟩, ?_, rfl, rfl⟩
    unfold splitTimes?
    rw [Seconds.elapsed?_of_le hdwell]
    rfl
  | @cons arrival departure next arrivals departures hdwell hhop _ ih =>
    obtain ⟨d, hd, hdwells, hhops⟩ := ih
    refine ⟨⟨(departure - arrival) :: d.dwells, (next - departure) :: d.hops⟩, ?_, ?_, ?_⟩
    · unfold splitTimes?
      rw [Seconds.elapsed?_of_le hdwell]
      show (Seconds.elapsed? departure next).bind _ = _
      rw [Seconds.elapsed?_of_le hhop]
      show (splitTimes? (next :: arrivals) departures).bind _ = _
      rw [hd]
      rfl
    · rw [List.length_cons, List.length_cons, hdwells]
    · show d.hops.length + 1 = arrivals.length + 1
      rw [hhops]
      rfl

theorem splitTimes?_cons {arrival departure next : Seconds} {arrivals departures : List Seconds}
    {d : Durations} (hdwell : arrival ≤ departure) (hhop : departure ≤ next)
    (h : splitTimes? (arrival :: next :: arrivals) (departure :: departures) = some d) :
    ∃ rest, splitTimes? (next :: arrivals) departures = some rest ∧
      d = ⟨(departure - arrival) :: rest.dwells, (next - departure) :: rest.hops⟩ := by
  unfold splitTimes? at h
  rw [Seconds.elapsed?_of_le hdwell] at h
  change (Seconds.elapsed? departure next).bind _ = _ at h
  rw [Seconds.elapsed?_of_le hhop] at h
  change (splitTimes? (next :: arrivals) departures).bind _ = _ at h
  cases hrest : splitTimes? (next :: arrivals) departures with
  | none =>
    rw [hrest] at h
    cases h
  | some rest =>
    rw [hrest] at h
    exact ⟨rest, rfl, (Option.some.inj h).symm⟩

theorem splitTimes?_last {arrival departure : Seconds} {d : Durations}
    (hdwell : arrival ≤ departure) (h : splitTimes? [arrival] [departure] = some d) :
    d = ⟨[departure - arrival], []⟩ := by
  unfold splitTimes? at h
  rw [Seconds.elapsed?_of_le hdwell] at h
  exact (Option.some.inj h).symm

/-- A stop is reached and left when the dwells and hops before it have passed since the first
arrival. -/
theorem times_eq {arrivals departures : List Seconds} {d : Durations} {first : Seconds}
    (h : Forward arrivals departures) (hd : splitTimes? arrivals departures = some d)
    (hfirst : arrivals.head? = some first) (k : Nat) :
    (∀ time, arrivals[k]? = some time → time.toNat =
        first.toNat + Seconds.total (d.dwells.take k) + Seconds.total (d.hops.take k)) ∧
      ∀ time, departures[k]? = some time → time.toNat =
        first.toNat + Seconds.total (d.dwells.take (k + 1)) + Seconds.total (d.hops.take k) := by
  induction k generalizing arrivals departures d first with
  | zero =>
    cases h with
    | nil => cases hfirst
    | @last arrival departure hdwell =>
      cases hfirst
      obtain rfl := splitTimes?_last hdwell hd
      have hleave := Seconds.toNat_elapsed hdwell
      simp
      omega
    | @cons arrival departure next arrivals departures hdwell hhop hrest =>
      cases hfirst
      obtain ⟨rest, -, rfl⟩ := splitTimes?_cons hdwell hhop hd
      have hleave := Seconds.toNat_elapsed hdwell
      simp
      omega
  | succ k ih =>
    cases h with
    | nil => cases hfirst
    | last hdwell => simp
    | @cons arrival departure next arrivals departures hdwell hhop hrest =>
      cases hfirst
      obtain ⟨rest, hsplit, rfl⟩ := splitTimes?_cons hdwell hhop hd
      obtain ⟨harrivals, hdepartures⟩ := ih hrest hsplit rfl
      have hleave := Seconds.toNat_elapsed hdwell
      have hreach := Seconds.toNat_elapsed hhop
      refine ⟨fun time htime => ?_, fun time htime => ?_⟩
      · have hlater := harrivals time htime
        simp only [List.take_succ_cons, Seconds.total_cons]
        omega
      · have hlater := hdepartures time htime
        rw [List.take_succ_cons, List.take_succ_cons, Seconds.total_cons, Seconds.total_cons]
        omega

/-! ## Laying durations out -/

/-- Laying out one more stop: a time overflows, or the stop is put before the later stops, whose
times start no earlier than this one is left. -/
theorem layOut_cons (i : Nat) (clock dwell : Seconds) (dwells hops : List Seconds) :
    (∃ stop, layOut i clock (dwell :: dwells) hops = .error (.overflow stop)) ∨
      ∃ departure j next hops', clock ≤ departure ∧ departure ≤ next ∧
        layOut i clock (dwell :: dwells) hops =
          (layOut j next dwells hops').map fun rest => (clock :: rest.1, departure :: rest.2) := by
  rw [layOut]
  cases hleave : Seconds.add? clock dwell with
  | none => exact .inl ⟨i, rfl⟩
  | some departure =>
    have hdwell : clock ≤ departure := Seconds.le_of_add? hleave
    cases hops with
    | nil =>
      refine .inr ⟨departure, i + 1, departure, [], hdwell, UInt32.le_refl _, ?_⟩
      show (layOut (i + 1) departure dwells []).bind _ = _
      cases layOut (i + 1) departure dwells [] with
      | error e => rfl
      | ok rest => rfl
    | cons hop hops =>
      cases harrive : Seconds.add? departure hop with
      | none =>
        left
        refine ⟨i + 1, ?_⟩
        simp only [harrive]
      | some next =>
        refine .inr ⟨departure, i + 1, next, hops, hdwell, Seconds.le_of_add? harrive, ?_⟩
        simp only [harrive]
        cases layOut (i + 1) next dwells hops with
        | error e => rfl
        | ok rest => rfl

/-- Durations that can be laid out give times that run forward, one for every dwell. -/
theorem forward_of_layOut {i : Nat} {clock : Seconds} {dwells hops : List Seconds}
    {times : List Seconds × List Seconds} (h : layOut i clock dwells hops = .ok times) :
    Forward times.1 times.2 ∧ times.1.length = dwells.length ∧
      (dwells ≠ [] → ∃ later, times.1 = clock :: later) := by
  induction dwells generalizing i clock hops times with
  | nil =>
    cases h
    exact ⟨Forward.nil, rfl, fun hne => absurd rfl hne⟩
  | cons dwell dwells ih =>
    obtain ⟨stop, hover⟩ | ⟨departure, j, next, hops', hdwell, hhop, hlay⟩ :=
      layOut_cons i clock dwell dwells hops
    · rw [hover] at h
      cases h
    · rw [hlay] at h
      cases hrest : layOut j next dwells hops' with
      | error e =>
        rw [hrest] at h
        cases h
      | ok rest =>
        rw [hrest] at h
        cases h
        obtain ⟨hforward, hlength, hfirst⟩ := ih hrest
        refine ⟨?_, congrArg (· + 1) hlength, fun _ => ⟨rest.1, rfl⟩⟩
        cases dwells with
        | nil =>
          cases hrest
          exact Forward.last hdwell
        | cons d ds =>
          obtain ⟨later, hlater⟩ := hfirst (List.cons_ne_nil d ds)
          show Forward (clock :: rest.1) (departure :: rest.2)
          rw [hlater] at hforward ⊢
          exact Forward.cons hdwell hhop hforward

/-- Durations that end before the clock does can be laid out. -/
theorem layOut_isOk {i : Nat} {clock : Seconds} {dwells hops : List Seconds}
    (h : clock.toNat + Seconds.total dwells + Seconds.total hops < UInt32.size) :
    ∃ times, layOut i clock dwells hops = .ok times := by
  induction dwells generalizing i clock hops with
  | nil => exact ⟨([], []), rfl⟩
  | cons dwell dwells ih =>
    rw [Seconds.total_cons] at h
    have hleave := Seconds.add?_of_lt (a := clock) (b := dwell) (by omega)
    have hdeparture := Seconds.toNat_add? hleave
    cases hops with
    | nil =>
      have hleft : (clock + dwell).toNat + Seconds.total dwells + Seconds.total [] <
          UInt32.size := by
        rw [Seconds.total_nil] at *
        omega
      obtain ⟨rest, hrest⟩ := ih (i := i + 1) hleft
      refine ⟨(clock :: rest.1, (clock + dwell) :: rest.2), ?_⟩
      rw [layOut, hleave]
      simp only [hrest]
      rfl
    | cons hop hops =>
      rw [Seconds.total_cons] at h
      have hreach := Seconds.add?_of_lt (a := clock + dwell) (b := hop) (by omega)
      have hnext := Seconds.toNat_add? hreach
      have hleft : (clock + dwell + hop).toNat + Seconds.total dwells + Seconds.total hops <
          UInt32.size := by omega
      obtain ⟨rest, hrest⟩ := ih (i := i + 1) hleft
      refine ⟨(clock :: rest.1, (clock + dwell) :: rest.2), ?_⟩
      rw [layOut, hleave]
      simp only [hreach, hrest]
      rfl

theorem overflow_of_layOut {i : Nat} {clock : Seconds} {dwells hops : List Seconds}
    {problem : TripProblem} (h : layOut i clock dwells hops = .error problem) :
    ∃ stop, problem = .overflow stop := by
  induction dwells generalizing i clock hops with
  | nil => cases h
  | cons dwell dwells ih =>
    obtain ⟨stop, hover⟩ | ⟨departure, j, next, hops', -, -, hlay⟩ :=
      layOut_cons i clock dwell dwells hops
    · rw [hover] at h
      cases h
      exact ⟨stop, rfl⟩
    · rw [hlay] at h
      cases hrest : layOut j next dwells hops' with
      | error e =>
        rw [hrest] at h
        cases h
        exact ih hrest
      | ok rest =>
        rw [hrest] at h
        cases h

end Trip

/-! ## What trips are refused for -/

/-- The error of a trip whose times cannot be read: a difference or a sum of its times is no time,
or a time is missing. -/
def NetworkError.Unreadable : NetworkError → Prop
  | .invalidTrip _ .unusableTimes => True
  | _ => False

namespace Trip

theorem firstBackward?_ne_unusable (i : Nat) (arrivals departures : List Seconds) :
    firstBackward? i arrivals departures ≠ some .unusableTimes := by
  induction arrivals generalizing i departures with
  | nil =>
    unfold firstBackward?
    exact fun h => by cases h
  | cons arrival arrivals ih =>
    cases departures with
    | nil =>
      unfold firstBackward?
      exact fun h => by cases h
    | cons departure departures =>
      unfold firstBackward?
      by_cases hdwell : departure < arrival
      · rw [if_pos hdwell]
        exact fun h => by cases h
      · rw [if_neg hdwell]
        by_cases hhop : (arrivals.head?.any (· < departure)) = true
        · rw [if_pos hhop]
          exact fun h => by cases h
        · rw [if_neg hhop]
          exact ih (i + 1) departures

/-- A trip that is refused is not refused because its times cannot be read. -/
theorem validate_yields (t : Trip) (stops : Nat) :
    Yields (t.validate stops) (fun _ => t.validate stops = .ok ()) fun e => ¬e.Unreadable := by
  unfold validate
  cases hproblem : t.problem? stops with
  | none => rfl
  | some problem =>
    cases problem with
    | unusableTimes =>
      unfold problem? at hproblem
      by_cases hlength : t.arrivals.length = stops ∧ t.departures.length = stops
      · rw [if_pos hlength] at hproblem
        exact absurd hproblem (firstBackward?_ne_unusable 0 _ _)
      · rw [if_neg hlength] at hproblem
        cases hproblem
    | _ => exact not_false

/-- Durations that are laid out give a trip with as many stops as dwells, or run too late. -/
theorem build_yields (id : String) (first : Seconds) (d : Durations) :
    Yields (build id first d) (fun t => t.validate d.dwells.length = .ok ())
      (fun e => ¬e.Unreadable) := by
  unfold build ofDurations
  cases htimes : layOut 0 first d.dwells d.hops with
  | error problem =>
    obtain ⟨stop, rfl⟩ := overflow_of_layOut htimes
    exact not_false
  | ok times =>
    obtain ⟨hforward, hlength, -⟩ := forward_of_layOut htimes
    exact validate_iff.2 ⟨hforward, hlength⟩

end Trip

end Multimodal
