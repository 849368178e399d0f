/-! # Trips

A trip is one vehicle run: when it arrives at each stop of its pattern and when it leaves, in seconds
after midnight.  The same run can be told as a first arrival, the time spent at each stop and the
travel time of each hop.

* `Trip.problem?`: what keeps the times from being those of a run over so many stops.
* `Trip.durations?`: the times taken apart into dwells and hops.
* `Trip.ofDurations`: dwells and hops put together into times.
-/

namespace Multimodal

/-- A time or a length of time in whole seconds. -/
abbrev Seconds := UInt32

namespace Seconds

/-- The time that passes from one moment to another that is not before it. -/
def elapsed? (start finish : Seconds) : Option Seconds :=
  if start ≤ finish then some (finish - start) else none

/-- The sum of two times, if it is still a time. -/
def add? (a b : Seconds) : Option Seconds :=
  if a.toNat + b.toNat < UInt32.size then some (a + b) else none

/-- The sum of some times, if it is still a time. -/
def sum? : List Seconds → Option Seconds
  | [] => some 0
  | a :: rest => (sum? rest).bind (add? a)

end Seconds

/-- What is wrong with the times of a trip. -/
inductive TripProblem
  | timeCount (stops arrivals departures : Nat)
  | departsBeforeArriving (stop : Nat)
  | arrivesBeforeLeaving (stop : Nat)
  | overflow (stop : Nat)
  | pastWindow (finish limit : Seconds)
  | unusableTimes
  deriving DecidableEq, Repr

/-- The wording of a problem; `arrivesBeforeLeaving` names the stop that is left too late. -/
def TripProblem.message : TripProblem → String
  | timeCount stops arrivals departures =>
    s!"expected {stops} stop times, got {arrivals} arrivals and {departures} departures"
  | departsBeforeArriving stop => s!"departs before arriving at stop {stop}"
  | arrivesBeforeLeaving stop =>
    let next := stop + 1
    s!"arrives at stop {next} before leaving {stop}"
  | overflow stop => s!"time at stop {stop} overflows"
  | pastWindow finish limit => s!"would end at {finish} s, past the {limit} s service window"
  | unusableTimes => "times do not split into dwells and hops"

/-- One vehicle run along a pattern. -/
structure Trip where
  id : String
  arrivals : List Seconds
  departures : List Seconds
  deriving DecidableEq, Repr

/-- A trip told by durations: the time spent at each stop, and the travel time between neighbours. -/
structure Durations where
  dwells : List Seconds
  hops : List Seconds
  deriving DecidableEq, Repr

namespace Trip

/-! ## Times in order -/

/-- The first place where the times run backwards, the first stop having number `i`. -/
def firstBackward? : Nat → List Seconds → List Seconds → Option TripProblem
  | i, arrival :: arrivals, departure :: departures =>
    if departure < arrival then some (.departsBeforeArriving i)
    else if arrivals.head?.any (· < departure) then some (.arrivesBeforeLeaving i)
    else firstBackward? (i + 1) arrivals departures
  | _, _, _ => none

/-- What keeps the trip from being a run over so many stops. -/
def problem? (t : Trip) (stops : Nat) : Option TripProblem :=
  if t.arrivals.length = stops ∧ t.departures.length = stops then
    firstBackward? 0 t.arrivals t.departures
  else some (.timeCount stops t.arrivals.length t.departures.length)

/-! ## Times and durations -/

/-- Times taken apart; there is nothing to take apart where they run backwards. -/
def splitTimes? : List Seconds → List Seconds → Option Durations
  | [], _ => some ⟨[], []⟩
  | _ :: _, [] => none
  | arrival :: arrivals, departure :: departures => do
    let dwell ← Seconds.elapsed? arrival departure
    match arrivals with
    | [] => some ⟨[dwell], []⟩
    | next :: _ =>
      let hop ← Seconds.elapsed? departure next
      let rest ← splitTimes? arrivals departures
      some ⟨dwell :: rest.dwells, hop :: rest.hops⟩

/-- The dwells and hops of a trip. -/
def durations? (t : Trip) : Option Durations := splitTimes? t.arrivals t.departures

/-- The times from `clock` on, the first stop having number `i`.  A hop that has a dwell before it is
added even when no stop follows. -/
def layOut : Nat → Seconds → List Seconds → List Seconds →
    Except TripProblem (List Seconds × List Seconds)
  | _, _, [], _ => .ok ([], [])
  | i, clock, dwell :: dwells, hops => do
    let some departure := Seconds.add? clock dwell | .error (.overflow i)
    match hops with
    | [] =>
      let rest ← layOut (i + 1) departure dwells []
      .ok (clock :: rest.1, departure :: rest.2)
    | hop :: hops =>
      let some next := Seconds.add? departure hop | .error (.overflow (i + 1))
      let rest ← layOut (i + 1) next dwells hops
      .ok (clock :: rest.1, departure :: rest.2)

/-- The trip with this first arrival and these durations. -/
def ofDurations (id : String) (first : Seconds) (d : Durations) : Except TripProblem Trip := do
  let times ← layOut 0 first d.dwells d.hops
  .ok ⟨id, times.1, times.2⟩

/-! ## Start and end -/

/-- The first arrival, or midnight for a trip without stops. -/
def start (t : Trip) : Seconds := t.arrivals.head?.getD 0

/-- The last departure, or midnight for a trip without stops. -/
def finish (t : Trip) : Seconds := t.departures.getLast?.getD 0

/-- The time from the first arrival to the last departure; zero if either is missing or they are the
wrong way round. -/
def length (t : Trip) : Seconds :=
  match t.arrivals.head?, t.departures.getLast? with
  | some first, some last => (Seconds.elapsed? first last).getD 0
  | _, _ => 0

end Trip

end Multimodal
