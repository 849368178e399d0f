import Multimodal.Proofs.Transit.Edits
import Multimodal.Proofs.Transit.TripTimes

/-! # Well-formed timetables

A timetable is well formed if ids lead to their records and patterns refer to records that exist and
accept their trips.  No operation on a timetable breaks this.

* `Indexed`: every id leads to the one record that has it.
* `Pattern.Accepted`, `TransitLayer.WellFormed`: what a well-formed timetable is.
* `Pattern.InRange`, `TransitLayer.Anchored`: the part of it that does not ask for the trips.
* `TransitLayer.MembersInRange`: membership lists are built for places that exist.
* `TransitLayer.Orderly`: an operation keeps timetables well formed.
* `orderly_addStop`, `orderly_addRoute`, `orderly_addPattern`, `openPattern_accepted`: the operations.
-/

namespace Multimodal

/-! ## Records by id -/

/-- Looking up an id finds a position exactly if the record there has the id. -/
def Indexed {α : Type} (id : α → String) (xs : Array α) : Prop :=
  ∀ name i, xs.findIdx? (fun x => id x = name) = some i ↔ ∃ x, xs[i]? = some x ∧ id x = name

namespace Indexed

variable {α : Type} {id : α → String} {xs : Array α}

theorem empty : Indexed id #[] := by
  intro name i
  constructor
  · intro h
    obtain ⟨hi, -⟩ := Array.findIdx?_eq_some_iff_getElem.1 h
    exact absurd hi (Nat.not_lt_zero i)
  · rintro ⟨x, h, -⟩
    cases h

/-- One more record under an id that leads nowhere yet. -/
theorem push (h : Indexed id xs) {x : α} (hfresh : xs.findIdx? (fun y => id y = id x) = none) :
    Indexed id (xs.push x) := by
  intro name i
  have hfind : (xs.push x).findIdx? (fun y => id y = name) =
      (xs.findIdx? (fun y => id y = name)).or (if id x = name then some xs.size else none) := by
    rw [Array.push_eq_append, Array.findIdx?_append, Array.findIdx?_singleton]
    by_cases hname : id x = name
    · simp [hname]
    · simp [hname]
  rw [hfind, Array.getElem?_push]
  by_cases hname : id x = name
  · subst hname
    rw [hfresh, Option.none_or, if_pos rfl]
    constructor
    · intro hi
      cases hi
      exact ⟨x, if_pos rfl, rfl⟩
    · rintro ⟨y, hy, hid⟩
      by_cases hi : i = xs.size
      · rw [hi]
      · rw [if_neg hi] at hy
        have hfound := (h (id x) i).2 ⟨y, hy, hid⟩
        rw [hfresh] at hfound
        cases hfound
  · rw [if_neg hname, Option.or_none, h name i]
    by_cases hi : i = xs.size
    · subst hi
      rw [if_pos rfl, Array.getElem?_eq_none (Nat.le_refl _)]
      constructor
      · rintro ⟨y, hy, -⟩
        cases hy
      · rintro ⟨y, hy, hid⟩
        cases hy
        exact absurd hid hname
    · rw [if_neg hi]

end Indexed

/-! ## Patterns and layers -/

/-- The pattern refers to a route and to stops of the layer and accepts its trips. -/
structure Pattern.Accepted (p : Pattern) (t : TransitLayer) : Prop where
  route : p.route < t.routes.size
  stops : ∀ s ∈ p.stops, s < t.stops.size
  trips : ∀ trip ∈ p.trips, trip.validate p.stops.length = .ok ()

/-- The pattern refers to a route and to stops of the layer. -/
structure Pattern.InRange (p : Pattern) (t : TransitLayer) : Prop where
  route : p.route < t.routes.size
  stops : ∀ s ∈ p.stops, s < t.stops.size

theorem Pattern.Accepted.inRange {p : Pattern} {t : TransitLayer} (h : p.Accepted t) :
    p.InRange t := ⟨h.route, h.stops⟩

namespace TransitLayer

/-- Every pattern refers to records of the layer. -/
def Anchored (t : TransitLayer) : Prop := ∀ p ∈ t.patterns, p.InRange t

/-- Ids lead to the records that have them, and every pattern is accepted. -/
structure WellFormed (t : TransitLayer) : Prop where
  stopIds : ∀ id i, t.stopIndex? id = some i ↔ ∃ stop, t.stops[i]? = some stop ∧ stop.id = id
  routeIds : ∀ id i, t.routeIndex? id = some i ↔ ∃ route, t.routes[i]? = some route ∧ route.id = id
  patterns : ∀ p ∈ t.patterns, p.Accepted t

namespace WellFormed

variable {t : TransitLayer}

theorem anchored (h : t.WellFormed) : t.Anchored := fun p hp => (h.patterns p hp).inRange

theorem empty : ({} : TransitLayer).WellFormed where
  stopIds := Indexed.empty
  routeIds := Indexed.empty
  patterns := fun _ hp => absurd hp List.not_mem_nil

theorem withFeed (h : t.WellFormed) (name : String) (checksum : UInt64) :
    (t.withFeed name checksum).WellFormed where
  stopIds := h.stopIds
  routeIds := h.routeIds
  patterns := fun p hp => { h.patterns p hp with }

theorem withStop (h : t.WellFormed) {stop : Stop} (hfresh : t.stopIndex? stop.id = none) :
    (t.withStop stop).WellFormed where
  stopIds := Indexed.push h.stopIds hfresh
  routeIds := h.routeIds
  patterns := fun p hp =>
    { h.patterns p hp with
      stops := fun s hs => by
        show s < (t.stops.push stop).size
        rw [Array.size_push]
        exact Nat.lt_succ_of_lt ((h.patterns p hp).stops s hs) }

theorem withRoute (h : t.WellFormed) {route : Route} (hfresh : t.routeIndex? route.id = none) :
    (t.withRoute route).WellFormed where
  stopIds := h.stopIds
  routeIds := Indexed.push h.routeIds hfresh
  patterns := fun p hp =>
    { h.patterns p hp with
      route := by
        show p.route < (t.routes.push route).size
        rw [Array.size_push]
        exact Nat.lt_succ_of_lt (h.patterns p hp).route }

/-- Other patterns that the layer accepts, whatever becomes of the membership lists. -/
theorem withPatterns (h : t.WellFormed) {patterns : List Pattern}
    (hpatterns : ∀ p ∈ patterns, p.Accepted t) (membership : Membership) (stale : Bool) :
    { t with patterns, membership, membershipStale := stale }.WellFormed where
  stopIds := h.stopIds
  routeIds := h.routeIds
  patterns := fun p hp => { hpatterns p hp with }

theorem retainPatterns (h : t.WellFormed) (keep : Pattern → Bool) :
    (t.retainPatterns keep).WellFormed :=
  h.withPatterns (fun p hp => h.patterns p (List.mem_filter.1 hp).1) t.membership true

/-- Patterns kept by a test that remembers something of the patterns before. -/
theorem retainPatternsFrom (h : t.WellFormed) {σ : Type} (keep : σ → Pattern → Bool × σ) (s : σ) :
    (t.retainPatternsFrom keep s).WellFormed :=
  h.withPatterns (fun p hp => h.patterns p ((retainFrom_sublist keep s t.patterns).subset hp))
    t.membership true

theorem withMembership (h : t.WellFormed) : t.withMembership.WellFormed :=
  h.withPatterns h.patterns _ false

theorem replacePattern (h : t.WellFormed) (i : PatternIndex) {p : Pattern} (hp : p.Accepted t) :
    (t.replacePattern i p).WellFormed := by
  refine h.withPatterns (fun q hq => ?_) t.membership t.membershipStale
  rcases List.mem_or_eq_of_mem_set hq with hold | rfl
  · exact h.patterns q hold
  · exact hp

end WellFormed

/-! ## Membership lists -/

/-- Every pattern with the stops that it calls at. -/
def stopCalls (t : TransitLayer) : List (StopIndex × PatternIndex) :=
  t.patterns.zipIdx.flatMap fun (pattern, i) => pattern.stops.map fun s => (s, i)

/-- Every pattern with its route. -/
def routeCalls (t : TransitLayer) : List (RouteIndex × PatternIndex) :=
  t.patterns.zipIdx.map fun (pattern, i) => (pattern.route, i)

/-- The membership lists are built from these pairs. -/
theorem membership_withMembership (t : TransitLayer) :
    t.withMembership.membership =
      ⟨memberLists t.stops.size t.stopCalls, memberLists t.routes.size t.routeCalls⟩ := rfl

/-- There is a membership list for every stop and every route that a pattern is put down for. -/
structure MembersInRange (t : TransitLayer) : Prop where
  stops : ∀ call ∈ t.stopCalls, call.1 < t.stops.size
  routes : ∀ call ∈ t.routeCalls, call.1 < t.routes.size

theorem Anchored.membersInRange {t : TransitLayer} (h : t.Anchored) : t.MembersInRange := by
  constructor
  · intro call hcall
    obtain ⟨⟨p, i⟩, hp, hcall⟩ := List.mem_flatMap.1 hcall
    obtain ⟨s, hs, rfl⟩ := List.mem_map.1 hcall
    exact (h p (List.fst_mem_of_mem_zipIdx hp)).stops s hs
  · intro call hcall
    obtain ⟨⟨p, i⟩, hp, rfl⟩ := List.mem_map.1 hcall
    exact (h p (List.fst_mem_of_mem_zipIdx hp)).route

theorem WellFormed.membersInRange {t : TransitLayer} (h : t.WellFormed) : t.MembersInRange :=
  h.anchored.membersInRange

/-! ## Operations -/

/-- The operation keeps timetables well formed, and if it is refused, then not because the times of a
trip cannot be read. -/
def Orderly {α : Type} (edit : Edit TransitLayer α) : Prop :=
  Ensures WellFormed edit (fun _ t => t.WellFormed) fun e t => ¬e.Unreadable ∧ t.WellFormed

theorem Orderly.keeps {α : Type} {edit : Edit TransitLayer α} (h : Orderly edit) :
    Keeps WellFormed edit :=
  h.mono (fun _ ht => ht) (fun _ _ ht => ht) fun _ _ ht => ht.2

theorem orderly_addStop (stop : Stop) : Orderly (addStop stop) := by
  intro t ht
  rw [addStop_apply]
  by_cases hid : (t.stopIndex? stop.id).isSome = true
  · rw [if_pos hid]
    exact ⟨not_false, ht⟩
  · rw [if_neg hid]
    exact ht.withStop (Option.not_isSome_iff_eq_none.1 hid)

theorem orderly_addRoute (route : Route) : Orderly (addRoute route) := by
  intro t ht
  rw [addRoute_apply]
  by_cases hid : (t.routeIndex? route.id).isSome = true
  · rw [if_pos hid]
    exact ⟨not_false, ht⟩
  · rw [if_neg hid]
    exact ht.withRoute (Option.not_isSome_iff_eq_none.1 hid)

/-- Checking a pattern accepts it or finds something that can be named. -/
theorem checkPattern_yields (t : TransitLayer) (p : Pattern) :
    Yields (t.checkPattern p) (fun _ => p.Accepted t) fun e => ¬e.Unreadable := by
  unfold checkPattern
  by_cases hroute : t.routes.size ≤ p.route
  · simp only [if_pos hroute]
    exact not_false
  · simp only [if_neg hroute]
    cases hmissing : p.stops.find? (t.stops.size ≤ ·) with
    | some s =>
      exact not_false
    | none =>
      have hstops : ∀ s ∈ p.stops, s < t.stops.size := by
        intro s hs
        have hfound := List.find?_eq_none.1 hmissing s hs
        simpa using hfound
      have htrips : Yields (p.trips.forM (·.validate p.stops.length))
          (fun _ => ∀ trip ∈ p.trips, trip.validate p.stops.length = .ok ())
          (fun e => ¬e.Unreadable) :=
        Yields.forM fun trip _ => trip.validate_yields p.stops.length
      cases hchecked : p.trips.forM (·.validate p.stops.length) with
      | error e =>
        rw [hchecked] at htrips
        exact htrips
      | ok u =>
        rw [hchecked] at htrips
        exact ⟨Nat.lt_of_not_le hroute, hstops, htrips⟩

theorem checkPattern_of_accepted {t : TransitLayer} {p : Pattern} (h : p.Accepted t) :
    t.checkPattern p = .ok () := by
  have hmissing : p.stops.find? (t.stops.size ≤ ·) = none := by
    refine List.find?_eq_none.2 fun s hs => ?_
    simpa using h.stops s hs
  have htrips : Yields (p.trips.forM (·.validate p.stops.length))
      (fun _ => ∀ trip ∈ p.trips, True) fun _ => False := by
    refine Yields.forM fun trip htrip => ?_
    rw [h.trips trip htrip]
    trivial
  unfold checkPattern
  rw [if_neg (Nat.not_le.2 h.route), hmissing]
  show p.trips.forM (·.validate p.stops.length) = .ok ()
  cases hchecked : p.trips.forM (·.validate p.stops.length) with
  | ok u => rfl
  | error e =>
    rw [hchecked] at htrips
    exact htrips.elim

theorem orderly_addPattern (p : Pattern) : Orderly (addPattern p) := by
  intro t ht
  rw [addPattern_apply]
  have hcheck := t.checkPattern_yields p
  cases h : t.checkPattern p with
  | error e =>
    rw [h] at hcheck
    exact ⟨hcheck, ht⟩
  | ok u =>
    rw [h] at hcheck
    refine ht.withPatterns (fun q hq => ?_) t.membership true
    rcases List.mem_append.1 hq with hold | hnew
    · exact ht.patterns q hold
    · rw [List.mem_singleton.1 hnew]
      exact hcheck

theorem openPattern_accepted (i : PatternIndex) :
    Ensures WellFormed (openPattern i) (fun p t => t.WellFormed ∧ p.Accepted t)
      fun e t => ¬e.Unreadable ∧ t.WellFormed := by
  intro t ht
  have hopened : (TransitLayer.withPatterns t t.patterns).WellFormed :=
    ht.withPatterns ht.patterns t.membership true
  rw [openPattern_apply]
  cases hp : t.patterns[i]? with
  | none => exact ⟨not_false, hopened⟩
  | some p => exact ⟨hopened, hopened.patterns p (List.mem_of_getElem? hp)⟩

end TransitLayer

end Multimodal
