import Multimodal.Proofs.Street.Changes
import Multimodal.Proofs.Transit.Calls
import Multimodal.Sample

/-! # Membership lists that are not stale

Patterns move up when others are dropped, and a pattern may call at one stop several times.  Building
the lists goes through the patterns in order, so looking at one end of a list is enough to put every
pattern down once; and every call that could make the lists wrong marks them as stale.

* `TransitLayer.Lists`: a list of exactly the patterns that pass a test.
* `TransitLayer.Listed`: unless they are stale, the membership lists are such lists.
* `membership_of_arises`: this holds of every timetable that arises from the empty one.
-/

namespace Multimodal

namespace TransitLayer

variable {t : TransitLayer}

/-- The list has the positions of the patterns that pass a test, in ascending order, and no other. -/
def Lists (t : TransitLayer) (list : List PatternIndex) (q : Pattern → Prop) : Prop :=
  list.Pairwise (· < ·) ∧ ∀ i, i ∈ list ↔ ∃ p, t.patterns[i]? = some p ∧ q p

/-- Unless they are stale, the membership lists have exactly the patterns that call at a stop and
exactly those of a route. -/
def Listed (t : TransitLayer) : Prop :=
  t.membershipStale = false →
    (∀ s, t.Lists (t.patternsForStop s) (s ∈ ·.stops)) ∧
      ∀ r, t.Lists (t.patternsForRoute r) (·.route = r)

theorem listed_empty : Listed {} := by
  intro _
  refine ⟨fun s => ⟨?_, fun i => ?_⟩, fun r => ⟨?_, fun i => ?_⟩⟩ <;>
    simp [patternsForStop, patternsForRoute]

/-! ## Building the lists -/

theorem mem_stopCalls {s : StopIndex} {i : PatternIndex} :
    (s, i) ∈ t.stopCalls ↔ ∃ p, t.patterns[i]? = some p ∧ s ∈ p.stops := by
  unfold stopCalls
  constructor
  · intro h
    obtain ⟨⟨p, k⟩, hp, hcall⟩ := List.mem_flatMap.1 h
    obtain ⟨s', hs, heq⟩ := List.mem_map.1 hcall
    cases heq
    exact ⟨p, List.mem_zipIdx_iff_getElem?.1 hp, hs⟩
  · rintro ⟨p, hp, hs⟩
    exact List.mem_flatMap.2
      ⟨(p, i), List.mem_zipIdx_iff_getElem?.2 hp, List.mem_map.2 ⟨s, hs, rfl⟩⟩

theorem mem_routeCalls {r : RouteIndex} {i : PatternIndex} :
    (r, i) ∈ t.routeCalls ↔ ∃ p, t.patterns[i]? = some p ∧ p.route = r := by
  unfold routeCalls
  constructor
  · intro h
    obtain ⟨⟨p, k⟩, hp, heq⟩ := List.mem_map.1 h
    cases heq
    exact ⟨p, List.mem_zipIdx_iff_getElem?.1 hp, rfl⟩
  · rintro ⟨p, hp, rfl⟩
    exact List.mem_map.2 ⟨(p, i), List.mem_zipIdx_iff_getElem?.2 hp, rfl⟩

/-- The calls of one pattern come together, and patterns come in order. -/
theorem pairwise_stopCalls (t : TransitLayer) : t.stopCalls.Pairwise fun a b => a.2 ≤ b.2 := by
  refine List.pairwise_flatMap.2 ⟨fun x _ => ?_, ?_⟩
  · exact List.pairwise_map.2 (List.pairwise_of_forall fun _ _ => Nat.le_refl _)
  · refine (pairwise_zipIdx t.patterns 0).imp fun {x y} hxy a ha b hb => ?_
    obtain ⟨s, -, rfl⟩ := List.mem_map.1 ha
    obtain ⟨s', -, rfl⟩ := List.mem_map.1 hb
    exact Nat.le_of_lt hxy

theorem pairwise_routeCalls (t : TransitLayer) : t.routeCalls.Pairwise fun a b => a.2 ≤ b.2 :=
  List.pairwise_map.2 ((pairwise_zipIdx t.patterns 0).imp Nat.le_of_lt)

theorem listed_withMembership (h : t.Anchored) : t.withMembership.Listed := by
  intro _
  refine ⟨fun s => ?_, fun r => ?_⟩
  · obtain ⟨hsorted, hmem⟩ := memberLists_exact h.membersInRange.stops t.pairwise_stopCalls s
    exact ⟨hsorted, fun i => (hmem i).trans mem_stopCalls⟩
  · obtain ⟨hsorted, hmem⟩ := memberLists_exact h.membersInRange.routes t.pairwise_routeCalls r
    exact ⟨hsorted, fun i => (hmem i).trans mem_routeCalls⟩

/-! ## Calls -/

-- A call that neither builds the lists nor leaves patterns and lists alone marks the lists as stale.
theorem Listed.perform (h : t.Listed) (hanchored : t.Anchored) (call : TransitCall) :
    (call.perform t).Listed := by
  rw [call.perform_eq t]
  split
  · cases call with
    | modifyPattern i f => exact fun hfresh => Bool.noConfusion hfresh
    | setFeed name checksum => exact h
    | addStop stop => exact h
    | addRoute route => exact h
    | addPattern pattern => exact h
    | retainPatterns keep s => exact h
    | buildMembership => exact h
  · cases call with
    | setFeed name checksum => exact h
    | buildMembership => exact listed_withMembership hanchored
    | addStop stop => exact fun hfresh => Bool.noConfusion hfresh
    | addRoute route => exact fun hfresh => Bool.noConfusion hfresh
    | addPattern pattern => exact fun hfresh => Bool.noConfusion hfresh
    | modifyPattern i f => exact fun hfresh => Bool.noConfusion hfresh
    | retainPatterns keep s => exact fun hfresh => Bool.noConfusion hfresh

/-- Whatever calls a timetable comes from, unless its membership lists are stale, the list of every
stop has exactly the patterns that call there and the list of every route exactly its patterns. -/
theorem membership_of_arises (h : t.Arises) (hfresh : t.membershipStale = false) :
    (∀ s, t.Lists (t.patternsForStop s) (s ∈ ·.stops)) ∧
      ∀ r, t.Lists (t.patternsForRoute r) (·.route = r) := by
  have hlisted : t.Listed := by
    clear hfresh
    induction h with
    | empty => exact listed_empty
    | call h call _ ih => exact ih.perform (anchored_of_arises h) call
  exact hlisted hfresh

end TransitLayer

namespace Sample

/-- Two lines between two stops and a tour that calls at both stops twice.  The first line is dropped,
the tour loses its last call, and some calls are refused. -/
def reworkedService : TransitLayer :=
  ({} : TransitLayer).after
    [.addStop ⟨"a", "A", crossing 0 0⟩, .addStop ⟨"b", "B", crossing 0 1⟩,
      .addStop ⟨"a", "C", crossing 0 2⟩, .addRoute ⟨"r1", "Line", .bus⟩,
      .addRoute ⟨"r2", "Tour", .tram⟩, .addPattern ⟨0, [0, 1], []⟩,
      .addPattern ⟨1, [0, 1, 0, 1], []⟩, .addPattern ⟨0, [1, 0], []⟩, .addPattern ⟨0, [0, 7], []⟩,
      .buildMembership, .retainPatterns (fun first _ => (!first, false)) true,
      .modifyPattern 0 fun p => { p with stops := p.stops.dropLast }, .modifyPattern 5 id,
      .buildMembership, .setFeed "gtfs1" 100]

theorem arises_reworkedService : reworkedService.Arises := by
  refine .after .empty fun t ht => ?_
  have hcut := ht.sound (f := fun p => { p with stops := p.stops.dropLast }) (fun _ => rfl)
    (fun p => List.dropLast_subset p.stops) 0
  have hsame := ht.sound (f := id) (fun _ => rfl) (fun p => List.Subset.refl p.stops) 5
  exact ⟨trivial, trivial, trivial, trivial, trivial, trivial, trivial, trivial, trivial, trivial,
    trivial, hcut, hsame, trivial, trivial⟩

/-- The tour and the line that is left both call at both stops. -/
theorem membership_reworkedService :
    reworkedService.Arises ∧ reworkedService.membershipStale = false ∧
      ((∀ s, reworkedService.Lists (reworkedService.patternsForStop s) (s ∈ ·.stops)) ∧
        ∀ r, reworkedService.Lists (reworkedService.patternsForRoute r) (·.route = r)) ∧
      reworkedService.patternsForStop 0 = [0, 1] ∧ reworkedService.patternsForStop 1 = [0, 1] ∧
      reworkedService.patternsForRoute 0 = [1] ∧ reworkedService.patternsForRoute 1 = [0] := by
  have hfresh : reworkedService.membershipStale = false := by decide +kernel
  refine ⟨arises_reworkedService, hfresh,
    TransitLayer.membership_of_arises arises_reworkedService hfresh, ?_⟩
  decide +kernel

end Sample

end Multimodal
