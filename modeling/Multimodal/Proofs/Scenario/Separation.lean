import Multimodal.Proofs.Modification.Layers
import Multimodal.Proofs.Scenario.History

/-! # Streets and timetable do not interfere

A scenario can be split into its modifications of the streets and its modifications of the timetable.
Sorting keeps either part in order, and every modification goes by its own layer and leaves the other;
so the two parts run beside each other as they would run alone.

* `canonicalize_filter`: a part of a scenario is sorted as it stands in the sorted scenario.
* `Scenario.revised_eq_ok`: both rounds succeed if all modifications resolve and apply.
* `Applies.onLayer`, `exists_applies`: a run shows either part of it, and two parts make a run.
* `Scenario.apply_by_layers`: a scenario succeeds if both parts do, with a layer from each.
-/

namespace Multimodal

/-! ## The order of a part -/

section Order

variable {μ : Type} [Modifies μ]

theorem StablySorted.filter {ms sorted : List μ} (h : StablySorted ms sorted) (p : μ → Bool) :
    StablySorted (ms.filter p) (sorted.filter p) where
  perm := h.perm.filter p
  ascending := h.ascending.filter p
  stable k := by rw [List.filter_comm, h.stable k, List.filter_comm]

/-- Lists in ascending order are the same if they agree on the modifications of every sort order. -/
theorem eq_of_ascending {l l' : List μ}
    (hl : l.Pairwise fun a b => Modifies.sortOrder a ≤ Modifies.sortOrder b)
    (hl' : l'.Pairwise fun a b => Modifies.sortOrder a ≤ Modifies.sortOrder b)
    (h : ∀ k : Int, l.filter (fun m => Modifies.sortOrder m = k) =
      l'.filter fun m => Modifies.sortOrder m = k) : l = l' := by
  have hmem : ∀ {xs ys : List μ}, (∀ k : Int, xs.filter (fun m => Modifies.sortOrder m = k) =
      ys.filter fun m => Modifies.sortOrder m = k) → ∀ a ∈ xs, a ∈ ys := by
    intro xs ys hxy a ha
    have hown : a ∈ xs.filter fun m => Modifies.sortOrder m = Modifies.sortOrder a :=
      List.mem_filter.2 ⟨ha, decide_eq_true rfl⟩
    rw [hxy] at hown
    exact (List.mem_filter.1 hown).1
  -- the heads have the same order and so are the first of it in both; then the rest
  induction l generalizing l' with
  | nil =>
    cases l' with
    | nil => rfl
    | cons b l' => exact absurd (hmem (fun k => (h k).symm) b List.mem_cons_self) List.not_mem_nil
  | cons a l ih =>
    cases l' with
    | nil => exact absurd (hmem h a List.mem_cons_self) List.not_mem_nil
    | cons b l' =>
      obtain ⟨hfirst, hrest⟩ := List.pairwise_cons.1 hl
      obtain ⟨hfirst', hrest'⟩ := List.pairwise_cons.1 hl'
      -- either head is a member of the other list, so neither is of a higher order
      have hle : (Modifies.sortOrder b : Int) ≤ Modifies.sortOrder a := by
        rcases List.mem_cons.1 (hmem h a List.mem_cons_self) with rfl | ha
        · exact Int.le_refl _
        · exact hfirst' a ha
      have hge : (Modifies.sortOrder a : Int) ≤ Modifies.sortOrder b := by
        rcases List.mem_cons.1 (hmem (fun k => (h k).symm) b List.mem_cons_self) with rfl | hb
        · exact Int.le_refl _
        · exact hfirst b hb
      have horder := Int.le_antisymm hle hge
      have hheads := h (Modifies.sortOrder a)
      rw [List.filter_cons_of_pos (by simp), List.filter_cons_of_pos (by simp [horder])] at hheads
      obtain ⟨rfl, -⟩ := List.cons.inj hheads
      refine congrArg (a :: ·) (ih hrest hrest' fun k => ?_)
      have hk := h k
      by_cases ha : Modifies.sortOrder a = k
      · rw [List.filter_cons_of_pos (by simpa using ha),
          List.filter_cons_of_pos (by simpa using ha)] at hk
        exact (List.cons.inj hk).2
      · rwa [List.filter_cons_of_neg (by simpa using ha),
          List.filter_cons_of_neg (by simpa using ha)] at hk

theorem StablySorted.unique {ms l l' : List μ} (h : StablySorted ms l) (h' : StablySorted ms l') :
    l = l' :=
  eq_of_ascending h.ascending h'.ascending fun k => (h.stable k).trans (h'.stable k).symm

theorem canonicalize_filter (ms : List μ) (p : μ → Bool) :
    canonicalize (ms.filter p) = (canonicalize ms).filter p :=
  (stablySorted_canonicalize (ms.filter p)).unique ((stablySorted_canonicalize ms).filter p)

/-! ## Rounds that succeed -/

theorem applyAll_of_applies {n n' : Network} {ms ms' : List μ} (h : Applies n ms ms' n') (i : Nat) :
    (applyAll n i ms).2 = .ok n' := by
  induction h generalizing i with
  | nil n => rfl
  | cons hfirst _ ih =>
    rw [applyAll, hfirst]
    exact ih (i + 1)

/-- Both rounds succeed if every modification resolves and all can be applied in turn. -/
theorem Scenario.revised_eq_ok {s : Scenario μ} {baseline n : Network} :
    s.revised baseline = .ok n ↔
      (∀ m ∈ s.modifications, (Modifies.resolve m (baseline.scopedCopy s.scope)).2 = .ok ()) ∧
        ∃ ms', Applies (baseline.scopedCopy s.scope)
          (s.modifications.map (resolvedBy (baseline.scopedCopy s.scope))) ms' n := by
  have hround := resolveAll_fst (baseline.scopedCopy s.scope) 0 s.modifications
  have hreports := reportsOn_resolveAll (baseline.scopedCopy s.scope) 0 s.modifications
  unfold revised
  rcases hresolved : resolveAll (baseline.scopedCopy s.scope) 0 s.modifications with
    ⟨round, _ | ⟨report, reports⟩⟩
  · rw [hresolved] at hround hreports
    obtain rfl : round = _ := hround
    have hresolves : ∀ m ∈ s.modifications,
        (Modifies.resolve m (baseline.scopedCopy s.scope)).2 = .ok () :=
      fun m hm => hreports.resolves hm
    simp only [hresolved]
    rcases applyAll_cases (baseline.scopedCopy s.scope) 0
      (s.modifications.map (resolvedBy (baseline.scopedCopy s.scope))) with
      ⟨ms', n', hall, happly⟩ | ⟨before, before', m, m', rest, n', n'', f, -, -, -, happly⟩
    · rw [happly]
      constructor
      · rintro ⟨⟩
        exact ⟨hresolves, ms', hall⟩
      · rintro ⟨-, ms'', hall'⟩
        have hsame := applyAll_of_applies hall' 0
        rw [happly] at hsame
        cases hsame
        rfl
    · rw [happly]
      constructor
      · rintro ⟨⟩
      · rintro ⟨-, ms'', hall⟩
        have hdone := applyAll_of_applies hall 0
        rw [happly] at hdone
        cases hdone
  · rw [hresolved] at hreports
    simp only [hresolved]
    constructor
    · rintro ⟨⟩
    · rintro ⟨hresolves, -⟩
      obtain ⟨k, m, f, hm, hfails, -⟩ := (hreports.mem_iff report).1 List.mem_cons_self
      rw [hresolves m (List.mem_of_getElem? hm)] at hfails
      cases hfails

end Order

/-- A scenario can be applied if its feeds match and both rounds succeed. -/
theorem Scenario.succeeds_iff (s : Scenario Modification) (config : ApplicationConfig)
    (baseline : Network) (known : Option ContentHash) :
    (∃ applied, (s.apply config baseline known).result = .ok applied) ↔
      (∃ feeds, verifyFeeds s.feeds baseline.transit.content.feeds = .ok feeds) ∧
        ∃ n, s.canonical.revised baseline = .ok n := by
  constructor
  · rintro ⟨applied, happlied⟩
    obtain ⟨n, hn, -⟩ := applied_of_result happlied
    refine ⟨?_, n, hn⟩
    rw [apply_result] at happlied
    cases hfeeds : verifyFeeds s.feeds baseline.transit.content.feeds with
    | error mismatch =>
      rw [hfeeds] at happlied
      cases happlied
    | ok feeds => exact ⟨feeds, rfl⟩
  · rintro ⟨⟨feeds, hfeeds⟩, n, hn⟩
    obtain ⟨summary, -, hresult⟩ := applyInOrder_of_revised hn config
    rw [apply_result, hfeeds, hresult]
    exact ⟨_, rfl⟩

/-! ## The parts of a scenario -/

/-- The modifications of one layer, in the order they had: those of the streets or the others. -/
def ofLayer (streets : Bool) (ms : List Modification) : List Modification :=
  ms.filter fun m => m.change.isStreet = streets

/-- The scenario without its modifications of the other layer; the feeds are the same. -/
def Scenario.part (s : Scenario Modification) (streets : Bool) : Scenario Modification :=
  { s with modifications := ofLayer streets s.modifications }

theorem ofLayer_cons_of_mem {streets : Bool} {x : Modification} (h : x.change.isStreet = streets)
    (xs : List Modification) : ofLayer streets (x :: xs) = x :: ofLayer streets xs :=
  List.filter_cons_of_pos (decide_eq_true h)

theorem ofLayer_cons_of_not_mem {streets : Bool} {x : Modification}
    (h : x.change.isStreet ≠ streets) (xs : List Modification) :
    ofLayer streets (x :: xs) = ofLayer streets xs :=
  List.filter_cons_of_neg (by simpa using h)

theorem Scenario.canonical_part (s : Scenario Modification) (streets : Bool) :
    (s.part streets).canonical = s.canonical.part streets := by
  unfold canonical part ofLayer
  rw [canonicalize_filter]

/-- A part changes the layer that it is about if the whole scenario does. -/
theorem Scenario.scope_part (s : Scenario Modification) :
    (s.part true).scope.street = s.scope.street ∧
      (s.part false).scope.transit = s.scope.transit := by
  have hscope : ∀ m : Modification, Modifies.scope m = ⟨m.change.isStreet, !m.change.isStreet⟩ :=
    fun m => m.change.scope_eq
  constructor
  · simp [scope, part, ofLayer, List.any_filter, hscope]
  · simp [scope, part, ofLayer, List.any_filter, hscope]

theorem Scenario.layer_scopedCopy_part (s : Scenario Modification) (baseline : Network)
    (streets : Bool) :
    (baseline.scopedCopy s.scope).layer streets =
      (baseline.scopedCopy (s.part streets).scope).layer streets := by
  obtain ⟨hstreet, htransit⟩ := s.scope_part
  cases streets with
  | true =>
    refine congrArg Sum.inl ?_
    unfold Network.scopedCopy
    rw [hstreet]
  | false =>
    refine congrArg Sum.inr ?_
    unfold Network.scopedCopy
    rw [htransit]

/-! ## Runs of the parts -/

variable {n m : Network} {streets : Bool}

theorem Applies.onLayer {ms ms' : List Modification} {n' : Network} (h : Applies n ms ms' n')
    (hlayer : n.layer streets = m.layer streets) :
    ∃ xs m', Applies m (ofLayer streets ms) xs m' ∧ n'.layer streets = m'.layer streets := by
  -- along the run: a member of the part does the same to `m`, any other leaves the layer alone
  induction h generalizing m with
  | nil n => exact ⟨[], m, .nil m, hlayer⟩
  | @cons n n₁ n' x x' ms ms' hfirst _ ih =>
    have hfirst' : x.apply n = (x', n₁, .ok ()) := hfirst
    by_cases hx : x.change.isStreet = streets
    · obtain ⟨-, hresult, hafter⟩ := x.apply_of_layer (hx ▸ hlayer)
      rcases hxm : x.apply m with ⟨x'', m₁, result⟩
      rw [hfirst', hxm] at hresult hafter
      obtain rfl : Except.ok () = result := hresult
      obtain ⟨xs, m', hrest, hlast⟩ := ih (hx ▸ hafter : n₁.layer streets = m₁.layer streets)
      rw [ofLayer_cons_of_mem hx]
      exact ⟨x'' :: xs, m', .cons hxm hrest, hlast⟩
    · have hother : (!x.change.isStreet) = streets := Bool.not_eq_iff.2 hx
      have hkept := x.layer_apply n
      rw [hfirst', hother] at hkept
      rw [ofLayer_cons_of_not_mem hx]
      exact ih (hkept.trans hlayer)

/-- Runs of the two parts, on networks that share a layer each with a third, make a run on that one. -/
theorem exists_applies {ms xs ys : List Modification} {n₁ n₁' n₂ n₂' : Network}
    (hstreets : Applies n₁ (ofLayer true ms) xs n₁') (htrips : Applies n₂ (ofLayer false ms) ys n₂')
    (h₁ : n.layer true = n₁.layer true) (h₂ : n.layer false = n₂.layer false) :
    ∃ ms' n', Applies n ms ms' n' := by
  -- each modification goes on in one of the two runs, and the other run waits
  induction ms generalizing n n₁ n₂ xs ys with
  | nil => exact ⟨[], n, .nil n⟩
  | cons x ms ih =>
    rcases hxn : x.apply n with ⟨x', n', result⟩
    have hkept := x.layer_apply n
    cases hx : x.change.isStreet with
    | true =>
      rw [ofLayer_cons_of_mem hx] at hstreets
      rw [ofLayer_cons_of_not_mem (by simp [hx])] at htrips
      cases hstreets with
      | cons hfirst hrest =>
        obtain ⟨-, hresult, hafter⟩ := x.apply_of_layer (hx ▸ h₁)
        have hfirst' : x.apply n₁ = _ := hfirst
        rw [hxn, hfirst'] at hresult hafter
        obtain rfl : result = .ok () := hresult
        rw [hxn, hx] at hkept
        obtain ⟨ms', n'', hall⟩ := ih hrest htrips (hx ▸ hafter) (hkept.trans h₂)
        exact ⟨x' :: ms', n'', .cons hxn hall⟩
    | false =>
      rw [ofLayer_cons_of_not_mem (by simp [hx])] at hstreets
      rw [ofLayer_cons_of_mem hx] at htrips
      cases htrips with
      | cons hfirst hrest =>
        obtain ⟨-, hresult, hafter⟩ := x.apply_of_layer (hx ▸ h₂)
        have hfirst' : x.apply n₂ = _ := hfirst
        rw [hxn, hfirst'] at hresult hafter
        obtain rfl : result = .ok () := hresult
        rw [hxn, hx] at hkept
        obtain ⟨ms', n'', hall⟩ := ih hstreets hrest (hkept.trans h₁) (hx ▸ hafter)
        exact ⟨x' :: ms', n'', .cons hxn hall⟩

/-! ## Both rounds -/

namespace Scenario

variable {s : Scenario Modification} {baseline : Network}

theorem resolve_part (s : Scenario Modification) (baseline : Network) {x : Modification}
    (hx : x.change.isStreet = streets) :
    Modifies.resolve x (baseline.scopedCopy s.scope) =
      Modifies.resolve x (baseline.scopedCopy (s.part streets).scope) := by
  have hlayer := s.layer_scopedCopy_part baseline streets
  exact x.resolve_of_layer (hx ▸ hlayer) rfl

theorem ofLayer_map_resolvedBy (s : Scenario Modification) (baseline : Network) :
    ofLayer streets (s.modifications.map (resolvedBy (baseline.scopedCopy s.scope))) =
      (s.part streets).modifications.map
        (resolvedBy (baseline.scopedCopy (s.part streets).scope)) := by
  have hkind : ∀ x : Modification,
      (resolvedBy (baseline.scopedCopy s.scope) x).change.isStreet = x.change.isStreet :=
    fun x => x.isStreet_resolve _
  unfold ofLayer
  rw [List.filter_map]
  simp only [Function.comp_def, hkind]
  refine List.map_congr_left fun x hx => ?_
  have hown : x.change.isStreet = streets := of_decide_eq_true (List.mem_filter.1 hx).2
  exact congrArg Prod.fst (s.resolve_part baseline hown)

theorem revised_part (h : s.revised baseline = .ok n) (streets : Bool) :
    ∃ n', (s.part streets).revised baseline = .ok n' ∧ n.layer streets = n'.layer streets := by
  obtain ⟨hresolves, ms', hall⟩ := revised_eq_ok.1 h
  obtain ⟨xs, n', hpart, hlayer⟩ := hall.onLayer (s.layer_scopedCopy_part baseline streets)
  rw [ofLayer_map_resolvedBy] at hpart
  refine ⟨n', revised_eq_ok.2 ⟨fun x hx => ?_, xs, hpart⟩, hlayer⟩
  obtain ⟨hmem, hown⟩ := List.mem_filter.1 hx
  rw [← s.resolve_part baseline (of_decide_eq_true hown)]
  exact hresolves x hmem

theorem exists_revised {n₁ n₂ : Network} (h₁ : (s.part true).revised baseline = .ok n₁)
    (h₂ : (s.part false).revised baseline = .ok n₂) : ∃ n, s.revised baseline = .ok n := by
  obtain ⟨hresolves₁, xs, hstreets⟩ := revised_eq_ok.1 h₁
  obtain ⟨hresolves₂, ys, htrips⟩ := revised_eq_ok.1 h₂
  rw [← ofLayer_map_resolvedBy] at hstreets htrips
  obtain ⟨ms', n, hall⟩ := exists_applies hstreets htrips (s.layer_scopedCopy_part baseline true)
    (s.layer_scopedCopy_part baseline false)
  refine ⟨n, revised_eq_ok.2 ⟨fun x hx => ?_, ms', hall⟩⟩
  cases hown : x.change.isStreet with
  | true =>
    rw [s.resolve_part baseline hown]
    exact hresolves₁ x (List.mem_filter.2 ⟨hx, decide_eq_true hown⟩)
  | false =>
    rw [s.resolve_part baseline hown]
    exact hresolves₂ x (List.mem_filter.2 ⟨hx, decide_eq_true hown⟩)

end Scenario

/-! ## Whole applications -/

/-- What a rebuild makes of a layer follows from the layer and from whether it is in scope. -/
theorem Network.layer_rebuilt {scope scope' : LayerScope} {policy policy' : RebuildPolicy}
    (h : n.layer streets = m.layer streets)
    (hscope : if streets then scope.street = scope'.street else scope.transit = scope'.transit) :
    (n.rebuilt scope policy).layer streets = (m.rebuilt scope' policy').layer streets := by
  obtain ⟨hstreet, htransit, -⟩ := rebuilt_layers n scope policy
  obtain ⟨hstreet', htransit', -⟩ := rebuilt_layers m scope' policy'
  cases streets with
  | true =>
    have hlayer : n.street = m.street := Sum.inl.inj h
    have hsame : scope.street = scope'.street := hscope
    refine congrArg Sum.inl ?_
    rw [hstreet, hstreet']
    unfold withLists
    rw [hlayer, hsame]
  | false =>
    have hlayer : n.transit = m.transit := Sum.inr.inj h
    have hsame : scope.transit = scope'.transit := hscope
    refine congrArg Sum.inr ?_
    rw [htransit, htransit']
    unfold withLists
    rw [hlayer, hsame]

theorem Scenario.layer_applied {s : Scenario Modification} {config : ApplicationConfig}
    {baseline : Network} {known : Option ContentHash} {a x : Applied}
    (ha : (s.apply config baseline known).result = .ok a)
    (hx : ((s.part streets).apply config baseline known).result = .ok x) :
    a.network.layer streets = x.network.layer streets := by
  obtain ⟨n, hn, hnetwork, -⟩ := applied_of_result ha
  obtain ⟨m, hm, hnetwork', -⟩ := applied_of_result hx
  obtain ⟨m', hm', hlayer⟩ := revised_part hn streets
  rw [canonical_part] at hm hnetwork'
  obtain rfl : m = m' := Except.ok.inj (hm.symm.trans hm')
  rw [hnetwork, hnetwork']
  refine Network.layer_rebuilt hlayer ?_
  obtain ⟨hstreet, htransit⟩ := s.canonical.scope_part
  cases streets with
  | true => exact hstreet.symm
  | false => exact htransit.symm

/-- A scenario can be applied exactly if its modifications of the streets can be applied without the
others and these without them.  It then makes the streets that the former make alone, and the
timetable that the latter make alone. -/
theorem Scenario.apply_by_layers (s : Scenario Modification) (config : ApplicationConfig)
    (baseline : Network) (known : Option ContentHash) :
    ((∃ a, (s.apply config baseline known).result = .ok a) ↔
      (∃ x, ((s.part true).apply config baseline known).result = .ok x) ∧
        ∃ y, ((s.part false).apply config baseline known).result = .ok y) ∧
      ∀ a x y, (s.apply config baseline known).result = .ok a →
        ((s.part true).apply config baseline known).result = .ok x →
        ((s.part false).apply config baseline known).result = .ok y →
          a.network.street.content = x.network.street.content ∧
            a.network.transit.content = y.network.transit.content := by
  refine ⟨?_, fun a x y ha hx hy => ⟨?_, ?_⟩⟩
  · rw [succeeds_iff, succeeds_iff, succeeds_iff, canonical_part, canonical_part]
    constructor
    · rintro ⟨hfeeds, n, hn⟩
      obtain ⟨n₁, h₁, -⟩ := revised_part hn true
      obtain ⟨n₂, h₂, -⟩ := revised_part hn false
      exact ⟨⟨hfeeds, n₁, h₁⟩, hfeeds, n₂, h₂⟩
    · rintro ⟨⟨hfeeds, n₁, h₁⟩, -, n₂, h₂⟩
      exact ⟨hfeeds, exists_revised h₁ h₂⟩
  · have hlayer : a.network.street = x.network.street := Sum.inl.inj (layer_applied ha hx)
    rw [hlayer]
  · have hlayer : a.network.transit = y.network.transit := Sum.inr.inj (layer_applied ha hy)
    rw [hlayer]

/-! ## A hamlet with a closure and a new line -/

namespace Sample

/-- The two lines with a single street. -/
def hamlet : Network := .build lane twoLines {}

/-- The new line and the closure together, the line first. -/
def works : Scenario Modification where
  modifications := shuttle.modifications ++ closure.modifications

theorem apply_closure (config : ApplicationConfig) :
    ∃ applied, (closure.apply config hamlet none).result = .ok applied :=
  exists_applied rfl canonical_closure (by decide +kernel) config none

/-- The closure and the new line make the streets and the timetable that either makes alone. -/
theorem works_by_layers :
    ∃ a x y, (works.apply {} hamlet none).result = .ok a ∧
      (closure.apply {} hamlet none).result = .ok x ∧
        (shuttle.apply {} hamlet none).result = .ok y ∧
          a.network.street.content = x.network.street.content ∧
            a.network.transit.content = y.network.transit.content := by
  have hstreets : works.part true = closure := rfl
  have htrips : works.part false = shuttle := rfl
  obtain ⟨x, hx⟩ := apply_closure {}
  obtain ⟨y, hy⟩ : ∃ y, (shuttle.apply {} hamlet none).result = .ok y :=
    exists_applied rfl canonical_shuttle (by decide +kernel) {} none
  obtain ⟨hsucceeds, hlayers⟩ := works.apply_by_layers {} hamlet none
  rw [hstreets, htrips] at hsucceeds hlayers
  obtain ⟨a, ha⟩ := hsucceeds.2 ⟨⟨x, hx⟩, y, hy⟩
  exact ⟨a, x, y, ha, hx, hy, hlayers a x y ha hx hy⟩

end Sample

end Multimodal
