import Multimodal.Proofs.Modification.Prediction
import Multimodal.Proofs.Modification.Removals
import Multimodal.Proofs.Modification.StopRemovals
import Multimodal.Proofs.Scenario.Phases

/-! # Modifications in another order

Removals of streets and removals of trips leave the same in whatever order they are applied.  Two
removals of stops leave the same stops and durations, but trips may start at another time.

* `Modification.OnlyRemarked`: what may differ of a modification.
* `removals_in_any_order`: streets and trips, for any number of removals.
* `stop_removals_in_either_order`: stops, with the exact condition for the same times.
-/

namespace Multimodal

namespace Modification

/-- Nothing but the remarks differs. -/
structure OnlyRemarked (x x' : Modification) : Prop where
  change : x'.change = x.change
  comment : x'.diagnostics.comment = x.diagnostics.comment

end Modification

theorem Applies.pair {μ : Type} [Modifies μ] {n : Network} {x y : μ}
    (hx : (Modifies.apply x n).2.2 = .ok ())
    (hy : (Modifies.apply y (Modifies.apply x n).2.1).2.2 = .ok ()) :
    Applies n [x, y]
      [(Modifies.apply x n).1, (Modifies.apply y (Modifies.apply x n).2.1).1]
      (Modifies.apply y (Modifies.apply x n).2.1).2.1 :=
  .cons (Prod.ext rfl (Prod.ext rfl hx)) (.cons (Prod.ext rfl (Prod.ext rfl hy)) (.nil _))

/-! ## Streets and trips -/

def closing (x : RemoveStreets × Diagnostics) : Modification := ⟨.removeStreets x.1, x.2⟩

def stripping (x : RemoveTrips × Diagnostics) : Modification := ⟨.removeTrips x.1, x.2⟩

section Runs

variable (n : Network)

theorem applies_closings (s : StreetLayer) (xs : List (RemoveStreets × Diagnostics))
    (h : ∀ x ∈ xs, ∀ e ∈ x.1.found, (s.edge? e).isSome) (es : IdSet) :
    ∃ ys, Applies { n with street := ⟨s.closed es, false⟩ } (xs.map closing) ys
        { n with street := ⟨s.closed ((xs.flatMap (·.1.found)).foldl IdSet.insert es), false⟩ } ∧
      List.Forall₂ Modification.OnlyRemarked (xs.map closing) ys := by
  induction xs generalizing es with
  | nil => exact ⟨[], .nil _, .nil⟩
  | cons x xs ih =>
    obtain ⟨hx, hxs⟩ := List.forall_mem_cons.1 h
    obtain ⟨d, happly, hcomment⟩ := x.1.apply_closed hx es x.2
    obtain ⟨ys, hrest, hremarked⟩ := ih hxs (x.1.found.foldl IdSet.insert es)
    have hstep : (closing x).change.apply ⟨{ n with street := ⟨s.closed es, false⟩ }, x.2⟩ = .ok ()
        ⟨{ n with street := ⟨s.closed (x.1.found.foldl IdSet.insert es), false⟩ }, d⟩ :=
      Step.onStreet_of_ok (w := ⟨{ n with street := ⟨s.closed es, false⟩ }, x.2⟩) rfl happly
    refine ⟨⟨(closing x).change, d⟩ :: ys, .cons (Modification.apply_of_ok hstep) ?_,
      .cons ⟨rfl, hcomment⟩ hremarked⟩
    rwa [List.flatMap_cons, List.foldl_append]

theorem applies_strippings (t : TransitLayer) (xs : List (RemoveTrips × Diagnostics)) :
    ∃ ys, Applies { n with transit := ⟨t, false⟩ } (xs.map stripping) ys
        { n with transit := ⟨t.strippedBy (xs.map (·.1)), false⟩ } ∧
      List.Forall₂ Modification.OnlyRemarked (xs.map stripping) ys := by
  induction xs generalizing t with
  | nil => exact ⟨[], .nil _, .nil⟩
  | cons x xs ih =>
    obtain ⟨ys, hrest, hremarked⟩ := ih (x.1.stripLayer t)
    have hstep := Step.onTransit_of_ok (w := ⟨{ n with transit := ⟨t, false⟩ }, x.2⟩) rfl
      (Step.removeTrips_apply x.1 ⟨t, x.2⟩)
    refine ⟨_ :: ys, .cons (Modification.apply_of_ok (x := stripping x) hstep) ?_,
      .cons ⟨rfl, ?_⟩ hremarked⟩
    · rwa [t.strippedBy_cons] at hrest
    · show (if _ then x.2.warn _ else x.2).comment = x.2.comment
      split
      · rfl
      · rfl

end Runs

/-- A removal of streets as resolving it against the network leaves it. -/
def closingFound (n : Network) (x : RemoveStreets × Diagnostics) : RemoveStreets × Diagnostics :=
  ((x.1.resolve n.street.content).1, (x.2.check (x.1.resolve n.street.content).2).1)

/-- A removal of trips as resolving it against the network leaves it. -/
def strippingFound (n : Network) (x : RemoveTrips × Diagnostics) : RemoveTrips × Diagnostics :=
  ((x.1.resolve n.transit.content).1, (x.2.check (x.1.resolve n.transit.content).2).1)

theorem map_resolvedBy_closing (n : Network) (xs : List (RemoveStreets × Diagnostics)) :
    xs.map (fun x => resolvedBy n (closing x)) = (xs.map (closingFound n)).map closing := by
  rw [List.map_map]
  rfl

theorem map_resolvedBy_stripping (n : Network) (xs : List (RemoveTrips × Diagnostics)) :
    xs.map (fun x => resolvedBy n (stripping x)) = (xs.map (strippingFound n)).map stripping := by
  rw [List.map_map]
  rfl

/-- The network without the streets that some removals find in it. -/
def Network.closedBy (n : Network) (xs : List (RemoveStreets × Diagnostics)) : Network :=
  { n with
    street := ⟨n.street.content.closed (.ofList
      (xs.flatMap fun x => (x.1.resolve n.street.content).1.found)), false⟩ }

/-- The network without the trips that some removals take out of it. -/
def Network.strippedBy (n : Network) (xs : List (RemoveTrips × Diagnostics)) : Network :=
  { n with
    transit := ⟨n.transit.content.strippedBy
      (xs.map fun x => (x.1.resolve n.transit.content).1), false⟩ }

/-- Removals of streets, and removals of trips, that were resolved against a network can be applied in
any order if it has the layer to itself.  Whatever the order, exactly the edges are closed that one of
them found, the degrees count what is left, and exactly the trips are gone that one of them takes out;
of the modifications only the remarks differ. -/
theorem removals_in_any_order (n : Network) :
    (∀ xs ys : List (RemoveStreets × Diagnostics), n.street.shared = false →
      (∀ x ∈ xs, (Modifies.resolve (closing x) n).2 = .ok ()) → ys.Perm xs →
        (∃ ms, Applies n (ys.map fun x => resolvedBy n (closing x)) ms (n.closedBy xs) ∧
          List.Forall₂ Modification.OnlyRemarked (ys.map fun x => resolvedBy n (closing x)) ms) ∧
        (n.street.content.Counted → (n.closedBy xs).street.content.Counted)) ∧
    ∀ xs ys : List (RemoveTrips × Diagnostics), n.transit.shared = false → ys.Perm xs →
      ∃ ms, Applies n (ys.map fun x => resolvedBy n (stripping x)) ms (n.strippedBy xs) ∧
        List.Forall₂ Modification.OnlyRemarked (ys.map fun x => resolvedBy n (stripping x)) ms := by
  constructor
  · intro xs ys hown hresolve hperm
    have hthere : ∀ x ∈ xs, ∀ e ∈ (closingFound n x).1.found, (n.street.content.edge? e).isSome :=
      fun x hx => x.1.there_of_found ((closing x).problems_eq_nil (hresolve x hx))
    constructor
    · have happlied := applies_closings n n.street.content (ys.map (closingFound n))
        (List.forall_mem_map.2 fun y hy => hthere y (hperm.mem_iff.1 hy)) .empty
      have hstart : { n with street := ⟨n.street.content.closed .empty, false⟩ } = n := by
        rw [StreetLayer.closed_empty, ← hown]
      rw [hstart, List.flatMap_map] at happlied
      rw [map_resolvedBy_closing]
      unfold Network.closedBy
      rwa [← IdSet.ofList_perm (hperm.flatMap_right _)]
    · intro hcounted
      refine StreetLayer.Counted.closed_foldl (fun e he => ?_) ?_
      · obtain ⟨x, hx, he⟩ := List.mem_flatMap.1 he
        exact hthere x hx e he
      · rwa [StreetLayer.closed_empty]
  · intro xs ys hown hperm
    have happlied := applies_strippings n n.transit.content (ys.map (strippingFound n))
    have hstart : { n with transit := ⟨n.transit.content, false⟩ } = n := by
      rw [← hown]
    have hfound : (ys.map (strippingFound n)).map (·.1) =
        ys.map fun x => (x.1.resolve n.transit.content).1 := by
      rw [List.map_map]
      rfl
    rw [hstart, hfound] at happlied
    rw [map_resolvedBy_stripping]
    unfold Network.strippedBy
    rwa [← n.transit.content.strippedBy_perm (hperm.map _)]

namespace Sample

/-- A one-way avenue of three blocks. -/
def avenue : StreetLayer where
  vertices := #[⟨450000000, 70000000⟩, ⟨450000000, 70030000⟩, ⟨450000000, 70060000⟩,
    ⟨450000000, 70090000⟩]
  edges := #[⟨0, 1, 235841, 833, .all, false⟩, ⟨1, 2, 235841, 833, .all, false⟩,
    ⟨2, 3, 235841, 833, .all, false⟩]
  liveDegree := #[1, 2, 2, 1]

/-- The two lines with the avenue. -/
def suburb : Network := .build avenue twoLines {}

/-- The areas around the two inner crossings of the avenue, with the block between in common. -/
def roundabouts : List (RemoveStreets × Diagnostics) :=
  [({ envelope := ⟨44.999, 7.002, 45.001, 7.004⟩ }, {}),
    ({ envelope := ⟨44.999, 7.005, 45.001, 7.007⟩ }, {})]

/-- A trip of the bus line, the tram line, and both together. -/
def cancellations : List (RemoveTrips × Diagnostics) :=
  [({ trips := ["r1-0800"] }, {}), ({ routes := ["r2"] }, {}),
    ({ routes := ["r2"], trips := ["r1-0800"] }, {})]

/-- Last things first: the block in common is gone when the first area is closed, and two removals of
trips find nothing left to do. -/
theorem removals_in_any_order_suburb :
    (suburb.street.shared = false ∧
        (∀ x ∈ roundabouts, (Modifies.resolve (closing x) suburb).2 = .ok ()) ∧
        (∃ ms, Applies suburb (roundabouts.reverse.map fun x => resolvedBy suburb (closing x)) ms
          (suburb.closedBy roundabouts)) ∧
        (suburb.closedBy roundabouts).street.content.changes.removed.toList = [0, 1, 2] ∧
        (suburb.closedBy roundabouts).street.content.liveDegree = #[0, 0, 0, 0]) ∧
      suburb.transit.shared = false ∧
        (∃ ms, Applies suburb (cancellations.reverse.map fun x => resolvedBy suburb (stripping x)) ms
          (suburb.strippedBy cancellations)) ∧
        ((suburb.strippedBy cancellations).transit.content.patterns.map
          fun p => p.trips.map (·.id)) = [["r1-0830"]] := by
  have hresolve : ∀ x ∈ roundabouts, (Modifies.resolve (closing x) suburb).2 = .ok () := by
    decide +kernel
  obtain ⟨⟨ms, hclosed, -⟩, -⟩ := (removals_in_any_order suburb).1 roundabouts roundabouts.reverse
    rfl hresolve roundabouts.reverse_perm
  obtain ⟨ms', hstripped, -⟩ := (removals_in_any_order suburb).2 cancellations
    cancellations.reverse rfl cancellations.reverse_perm
  exact ⟨⟨rfl, hresolve, ⟨ms, hclosed⟩, by decide +kernel, by decide +kernel⟩, rfl,
    ⟨ms', hstripped⟩, by decide +kernel⟩

end Sample

/-! ## Stops -/

/-- What a removal of stops that succeeds makes of the timetable. -/
theorem cutBy_of_apply {n n' : Network} {x x' : Modification} {a : RemoveStops}
    (h : n.transit.content.WellFormed) (hx : x.change = .removeStops a)
    (happly : x.apply n = (x', n', .ok ())) :
    List.Forall₂ (fun p q => p.CutBy (a.Drops p.route) q) n.transit.content.patterns
        n'.transit.content.patterns ∧
      n.transit.content.SameRecords n'.transit.content ∧ n'.transit.content.WellFormed := by
  have hwellFormed := (x.apply_orderly (by rw [hx]; rfl) h).1
  rw [happly] at hwellFormed
  have hchange := Modification.of_apply_ok happly
  rw [hx] at hchange
  obtain ⟨t, hstep, ht⟩ := Step.of_onTransit_ok hchange
  have hrewrites : Step.Rewrites a.cut? ⟨n.transit.content, x.diagnostics⟩ a.apply :=
    Step.rewrites_removeStops a h
  obtain ⟨hrewritten, hrecords⟩ := hrewrites.ok rfl hstep
  rw [← ht] at hrewritten hrecords
  have haccepted : ∀ p ∈ n.transit.content.patterns,
      ∀ trip ∈ p.trips, trip.validate p.stops.length = .ok () := fun p hp => (h.patterns p hp).trips
  refine ⟨?_, hrecords, hwellFormed⟩
  exact ((List.forall₂_and_left _ _).2 ⟨haccepted, hrewritten⟩).imp fun p q hq =>
    a.cutBy_of_cut? hq.1 hq.2

theorem cutTwice_of_applies {n n' : Network} {x y : Modification} {a b : RemoveStops}
    {ms : List Modification} (h : n.transit.content.WellFormed) (hx : x.change = .removeStops a)
    (hy : y.change = .removeStops b) (happlies : Applies n [x, y] ms n') :
    List.Forall₂ (fun p r => ∃ q, p.CutBy (a.Drops p.route) q ∧ q.CutBy (b.Drops p.route) r)
        n.transit.content.patterns n'.transit.content.patterns ∧
      n.transit.content.SameRecords n'.transit.content := by
  cases happlies with
  | cons hfirst hrest =>
    cases hrest with
    | cons hsecond hend =>
      cases hend
      obtain ⟨hcut, hrecords, hwellFormed⟩ := cutBy_of_apply h hx hfirst
      obtain ⟨hcut', hrecords', -⟩ := cutBy_of_apply hwellFormed hy hsecond
      refine ⟨forall₂_trans (fun p q r hq hr => ?_) hcut hcut', hrecords'.stops.trans hrecords.stops,
        hrecords'.routes.trans hrecords.routes, hrecords'.feeds.trans hrecords.feeds⟩
      rw [hq.route] at hr
      exact ⟨q, hq, hr⟩

/-- Two removals of stops leave the same patterns in either order, except that trips may start at
another time; and they leave the same times exactly if they save every trip as much, the one or the
other being applied first, on the way to the first stop that both leave. -/
theorem stop_removals_in_either_order {n n₁ n₂ : Network} {x y : Modification} {a b : RemoveStops}
    {ms₁ ms₂ : List Modification} (h : n.transit.content.WellFormed) (hx : x.change = .removeStops a)
    (hy : y.change = .removeStops b) (hxy : Applies n [x, y] ms₁ n₁)
    (hyx : Applies n [y, x] ms₂ n₂) :
    n₁.transit.content.SameRecords n₂.transit.content ∧
      List.Forall₂ Pattern.SameService n₁.transit.content.patterns n₂.transit.content.patterns ∧
      (n₁.transit.content.patterns = n₂.transit.content.patterns ↔
        ∀ p ∈ n.transit.content.patterns, ∀ trip ∈ p.trips,
          p.headStart (a.Drops p.route) (b.Drops p.route) trip =
            p.headStart (b.Drops p.route) (a.Drops p.route) trip) := by
  obtain ⟨hcut₁, hrecords₁⟩ := cutTwice_of_applies h hx hy hxy
  obtain ⟨hcut₂, hrecords₂⟩ := cutTwice_of_applies h hy hx hyx
  refine ⟨⟨hrecords₂.stops.trans hrecords₁.stops.symm, hrecords₂.routes.trans hrecords₁.routes.symm,
    hrecords₂.feeds.trans hrecords₁.feeds.symm⟩, forall₂_compare (fun p _ r r' => ?_) hcut₁ hcut₂⟩
  rintro ⟨q, hq, hr⟩ ⟨q', hq', hr'⟩
  exact Pattern.sameService_of_cutBy hq hr hq' hr'

namespace Sample

/-- Without the first stop of the bus line the dwell at the second one is not saved any more, so that
the order in which the two are removed decides when the buses are at the third. -/
theorem stop_removals_do_not_commute :
    ¬∀ (n n₁ n₂ : Network) (x y : Modification) (a b : RemoveStops) (ms₁ ms₂ : List Modification),
      n.transit.content.WellFormed → x.change = .removeStops a → y.change = .removeStops b →
      (Modifies.resolve x n).2 = .ok () → (Modifies.resolve y n).2 = .ok () →
      Applies n [resolvedBy n x, resolvedBy n y] ms₁ n₁ →
      Applies n [resolvedBy n y, resolvedBy n x] ms₂ n₂ →
      n₁.transit.content.patterns = n₂.transit.content.patterns := by
  intro hcommute
  have hsame := hcommute town _ _ (without ["a"]) (without ["b"]) _ _ _ _ wellFormed_town rfl rfl
    (by decide +kernel) (by decide +kernel) (Applies.pair (by decide +kernel) (by decide +kernel))
    (Applies.pair (by decide +kernel) (by decide +kernel))
  exact absurd hsame (by decide +kernel)

/-- The second and the third stop of the bus line can be removed in either order; the first and the
second leave the same runs, but not at the same times. -/
theorem stop_removals_in_either_order_town :
    town.transit.content.WellFormed ∧
    (∃ ms₁ ms₂ n₁ n₂,
      Applies town [resolvedBy town (without ["b"]), resolvedBy town (without ["c"])] ms₁ n₁ ∧
      Applies town [resolvedBy town (without ["c"]), resolvedBy town (without ["b"])] ms₂ n₂ ∧
      List.Forall₂ Pattern.SameService n₁.transit.content.patterns n₂.transit.content.patterns ∧
      n₁.transit.content.patterns = n₂.transit.content.patterns) ∧
    ∃ ms₁ ms₂ n₁ n₂,
      Applies town [resolvedBy town (without ["a"]), resolvedBy town (without ["b"])] ms₁ n₁ ∧
      Applies town [resolvedBy town (without ["b"]), resolvedBy town (without ["a"])] ms₂ n₂ ∧
      List.Forall₂ Pattern.SameService n₁.transit.content.patterns n₂.transit.content.patterns ∧
      n₁.transit.content.patterns ≠ n₂.transit.content.patterns := by
  refine ⟨wellFormed_town, ?_, ?_⟩
  · have hbc := Applies.pair (n := town) (x := resolvedBy town (without ["b"]))
      (y := resolvedBy town (without ["c"])) (by decide +kernel) (by decide +kernel)
    have hcb := Applies.pair (n := town) (x := resolvedBy town (without ["c"]))
      (y := resolvedBy town (without ["b"])) (by decide +kernel) (by decide +kernel)
    obtain ⟨-, hservice, hsame⟩ := stop_removals_in_either_order wellFormed_town rfl rfl hbc hcb
    exact ⟨_, _, _, _, hbc, hcb, hservice, hsame.2 (by decide +kernel)⟩
  · have hab := Applies.pair (n := town) (x := resolvedBy town (without ["a"]))
      (y := resolvedBy town (without ["b"])) (by decide +kernel) (by decide +kernel)
    have hba := Applies.pair (n := town) (x := resolvedBy town (without ["b"]))
      (y := resolvedBy town (without ["a"])) (by decide +kernel) (by decide +kernel)
    obtain ⟨-, hservice, hsame⟩ := stop_removals_in_either_order wellFormed_town rfl rfl hab hba
    exact ⟨_, _, _, _, hab, hba, hservice, hsame.not.2 (by decide +kernel)⟩

end Sample

end Multimodal
