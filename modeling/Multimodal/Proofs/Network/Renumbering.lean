import Multimodal.Proofs.Network.Rebuild
import Multimodal.Proofs.Street.Renumbering

/-! # Networks under other edge numbers

Two networks that differ only in the numbers of their edges, and in edge lists and removed edges, are
rebuilt alike: the same summary, the same linkage, the same membership lists.

* `Network.Renumbers`: the networks differ only in this.
* `Network.alike_editStreet`, `Network.alike_onStreet`: what is done to the streets does alike.
* `Network.alike_rebuild`: so does the rebuild.
* `Network.compacted`: the network with no removed edge.
-/

namespace Multimodal

theorem Linkage.linkStops_congr {l : Linkage} {s t : StreetLayer} {transit : TransitLayer}
    {params : LinkageParams} (h : ∀ p, accessOf s params p = accessOf t params p)
    (selection : StopSelection) :
    l.linkStops s transit params selection = l.linkStops t transit params selection := by
  have hrelink : relink s transit params = relink t transit params := by
    funext l i
    unfold relink
    simp only [h]
  unfold linkStops
  rw [hrelink]

namespace Network

/-- The networks agree but for the numbers of their edges.  If streets are in scope, the layers are
the holder's own, the touched edges correspond, and of the second layer the edges `needed` are there. -/
structure Renumbers (f : EdgeId → EdgeId) (needed : List EdgeId) (scope : LayerScope)
    (n m : Network) : Prop where
  street : n.street.content.Renumbers f m.street.content
  tracks : scope.street = true → n.street.content.Tracks f needed m.street.content
  shared : n.street.shared = !scope.street
  shared' : m.street.shared = !scope.street
  transit : n.transit = m.transit
  linkage : n.linkage = m.linkage
  params : n.params = m.params

section Alike

variable {f : EdgeId → EdgeId} {needed : List EdgeId} {scope : LayerScope} {n m : Network}
  {α β : Type} {V : α → β → Prop}

namespace Renumbers

theorem mono (h : n.Renumbers f needed scope m) {fewer : List EdgeId} (hsub : fewer ⊆ needed) :
    n.Renumbers f fewer scope m :=
  { h with tracks := fun hscope => (h.tracks hscope).mono hsub }

/-- Edges that are there can be watched. -/
theorem watch (h : n.Renumbers f [] scope m)
    (hthere : ∀ k ∈ needed, (m.street.content.edge? k).isSome) : n.Renumbers f needed scope m :=
  { h with tracks := fun hscope => { h.tracks hscope with there := hthere } }

theorem withStreet (h : n.Renumbers f needed scope m) (hscope : scope.street = true)
    {s t : StreetLayer} (hst : s.Tracks f needed t) :
    { n with street := ⟨s, false⟩ }.Renumbers f needed scope { m with street := ⟨t, false⟩ } where
  street := hst.toRenumbers
  tracks _ := hst
  shared := by rw [hscope]; rfl
  shared' := by rw [hscope]; rfl
  transit := h.transit
  linkage := h.linkage
  params := h.params

theorem withTransit (h : n.Renumbers f needed scope m) (t : Part TransitLayer) :
    { n with transit := t }.Renumbers f needed scope { m with transit := t } :=
  { h with transit := rfl }

theorem withLinkage (h : n.Renumbers f needed scope m) (l : Part Linkage) :
    { n with linkage := l }.Renumbers f needed scope { m with linkage := l } :=
  { h with linkage := rfl }

theorem content_eq (h : n.Renumbers f needed scope m) : n.content = m.content := by
  unfold content
  rw [h.street.vertices, h.street.keptEdges_eq, h.transit]

end Renumbers

/-! ## Changes and steps -/

theorem alike_editStreet {x : Edit StreetLayer α} {y : Edit StreetLayer β}
    (hxy : Alike (StreetLayer.Tracks f needed) V x y) :
    Alike (Renumbers f needed scope) V (editStreet x) (editStreet y) := by
  intro n m h
  unfold editStreet
  rw [h.shared, h.shared']
  cases hscope : scope.street with
  | false => exact ⟨rfl, h⟩
  | true =>
    simp only [Bool.not_true, Bool.false_eq_true, if_false]
    rcases (hxy _ _ (h.tracks hscope)).cases with ⟨a, s, b, t, hx, hy, hab, hst⟩ |
      ⟨e, s, t, hx, hy, hst⟩
    · rw [hx, hy]
      exact ⟨hab, h.withStreet hscope hst⟩
    · rw [hx, hy]
      exact ⟨rfl, h.withStreet hscope hst⟩

theorem alike_editTransit (x : Edit TransitLayer α) :
    Alike (Renumbers f needed scope) Eq (editTransit x) (editTransit x) := by
  intro n m h
  unfold editTransit
  rw [h.transit]
  by_cases hshared : m.transit.shared = true
  · rw [if_pos hshared, if_pos hshared]
    exact ⟨rfl, h⟩
  · rw [if_neg hshared, if_neg hshared]
    cases x m.transit.content with
    | ok a t => exact ⟨rfl, h.withTransit _⟩
    | error e t => exact ⟨rfl, h.withTransit _⟩

theorem alike_editLinkage {edit : Network → Linkage × α}
    (hedit : ∀ n m, n.Renumbers f needed scope m → edit n = edit m) :
    Alike (Renumbers f needed scope) Eq (editLinkage edit) (editLinkage edit) := by
  intro n m h
  unfold editLinkage
  rw [h.linkage, hedit n m h]
  by_cases hshared : m.linkage.shared = true
  · rw [if_pos hshared, if_pos hshared]
    exact ⟨rfl, h⟩
  · rw [if_neg hshared, if_neg hshared]
    exact ⟨rfl, h.withLinkage _⟩

theorem alike_onStreet {x : Step StreetLayer α} {y : Step StreetLayer β}
    (hxy : Alike (Worksite.Related (StreetLayer.Tracks f needed)) V x y) :
    Alike (Worksite.Related (Renumbers f needed scope)) V (Step.onStreet x) (Step.onStreet y) := by
  intro w w' h
  unfold Step.onStreet
  rw [h.target.shared, h.target.shared']
  cases hscope : scope.street with
  | false => exact ⟨rfl, h⟩
  | true =>
    have hresult := hxy ⟨w.target.street.content, w.diagnostics⟩
      ⟨w'.target.street.content, w'.diagnostics⟩ ⟨h.target.tracks hscope, h.diagnostics⟩
    simp only [Bool.not_true, Bool.false_eq_true, if_false]
    rcases hresult.cases with ⟨a, s, b, t, hx, hy, hab, hst⟩ | ⟨e, s, t, hx, hy, hst⟩
    · rw [hx, hy]
      exact ⟨hab, h.target.withStreet hscope hst.target, hst.diagnostics⟩
    · rw [hx, hy]
      exact ⟨rfl, h.target.withStreet hscope hst.target, hst.diagnostics⟩

theorem alike_onTransit (x : Step TransitLayer α) :
    Alike (Worksite.Related (Renumbers f needed scope)) Eq (Step.onTransit x)
      (Step.onTransit x) := by
  intro w w' h
  unfold Step.onTransit
  rw [h.target.transit, h.diagnostics]
  by_cases hshared : w'.target.transit.shared = true
  · rw [if_pos hshared, if_pos hshared]
    exact ⟨rfl, h⟩
  · rw [if_neg hshared, if_neg hshared]
    cases x ⟨w'.target.transit.content, w'.diagnostics⟩ with
    | ok a t => exact ⟨rfl, h.target.withTransit _, rfl⟩
    | error e t => exact ⟨rfl, h.target.withTransit _, rfl⟩

/-! ## The rebuild -/

theorem alike_buildEdgeLists :
    Alike (Renumbers f needed scope) Eq buildEdgeLists buildEdgeLists :=
  alike_editStreet (Alike.modify fun _ _ h => h.withEdgeLists)

theorem alike_buildMembership :
    Alike (Renumbers f needed scope) Eq buildMembership buildMembership := alike_editTransit _

theorem alike_linkStops (selection : StopSelection) :
    Alike (Renumbers f needed scope) Eq (linkStops selection) (linkStops selection) := by
  refine alike_editLinkage fun n m h => ?_
  rw [h.linkage, h.transit, h.params]
  exact Linkage.linkStops_congr (h.street.accessOf_eq m.params) selection

theorem alike_findTransfers (dirty : List StopIndex) :
    Alike (Renumbers f needed scope) Eq (findTransfers dirty) (findTransfers dirty) :=
  alike_editLinkage fun n m h => by rw [h.linkage, h.transit, h.params]

theorem alike_findAllTransfers :
    Alike (Renumbers f needed scope) Eq findAllTransfers findAllTransfers :=
  alike_editLinkage fun n m h => by rw [h.linkage, h.transit, h.params]

theorem alike_rebuildLinkage (policy : RebuildPolicy) (selection : StopSelection) :
    Alike (Renumbers f needed scope) Eq (rebuildLinkage policy selection)
      (rebuildLinkage policy selection) := by
  refine Alike.bind (alike_linkStops selection) ?_
  rintro dirty _ rfl
  have hcount : ∀ count count' : Nat, count = count' → Alike (Renumbers f needed scope) Eq
      (pure (dirty.length, count) : Edit Network (Nat × Nat)) (pure (dirty.length, count')) :=
    fun _ _ h => Alike.pure (congrArg (Prod.mk _) h)
  cases policy with
  | full => exact Alike.bind alike_findAllTransfers hcount
  | «scoped» => exact Alike.bind (alike_findTransfers dirty) hcount

theorem alike_rebuildStops (policy : RebuildPolicy) (region : Option Envelope) :
    Alike (Renumbers f needed scope) Eq (rebuildStops scope policy region)
      (rebuildStops scope policy region) := by
  unfold rebuildStops
  cases policy.selection? scope region with
  | none => exact Alike.pure rfl
  | some selection =>
    refine Alike.bind (alike_rebuildLinkage policy selection) ?_
    rintro counts _ rfl
    exact Alike.pure rfl

/-- The touched area is the same, so whatever depends on it does alike. -/
theorem alike_region (hscope : scope.street = true) {k : Option Envelope → Edit Network α}
    (hk : ∀ region, Alike (Renumbers f needed scope) Eq (k region) (k region)) :
    Alike (Renumbers f needed scope) Eq
      (get >>= fun n => k (n.changedRegion? n.params.treeRadius))
      (get >>= fun n => k (n.changedRegion? n.params.treeRadius)) := by
  refine Alike.bind Alike.get fun n m h => ?_
  have hregion : n.changedRegion? n.params.treeRadius = m.changedRegion? m.params.treeRadius := by
    rw [h.params]
    exact (h.tracks hscope).changedRegion?_eq _
  rw [hregion]
  exact hk _

theorem alike_rebuild (policy : RebuildPolicy) :
    Alike (Renumbers f needed scope) Eq (rebuild scope policy) (rebuild scope policy) := by
  obtain ⟨street, transit⟩ := scope
  cases street with
  | true =>
    cases transit with
    | true =>
      exact Alike.bind alike_buildEdgeLists fun _ _ _ => alike_region rfl fun region =>
        Alike.bind alike_buildMembership fun _ _ _ => alike_rebuildStops policy region
    | false =>
      exact Alike.bind alike_buildEdgeLists fun _ _ _ => alike_region rfl fun region =>
        alike_rebuildStops policy region
  | false =>
    cases transit with
    | true =>
      exact Alike.bind Alike.get fun _ _ _ => Alike.bind alike_buildMembership fun _ _ _ =>
        alike_rebuildStops policy none
    | false => exact Alike.pure rfl

end Alike

/-! ## No removed edge -/

/-- The network with no removed edge, as its only holder sees it. -/
def compacted (n : Network) : Network where
  street := ⟨n.street.content.compacted, false⟩
  transit := ⟨n.transit.content, false⟩
  linkage := ⟨n.linkage.content, false⟩
  params := n.params

/-- Copying for a scenario renumbers the compacted network. -/
theorem renumbers_scopedCopy (n : Network) (scope : LayerScope) :
    (n.scopedCopy scope).Renumbers n.street.content.liveNumber [] scope
      (n.compacted.scopedCopy scope) := by
  have hstreet := n.street.content.renumbers_compacted
  obtain ⟨street, transit⟩ := scope
  cases street with
  | true =>
    have htracks := StreetLayer.Tracks.forgetChanges hstreet
    exact ⟨htracks.toRenumbers, fun _ => htracks, rfl, rfl, rfl, rfl, rfl⟩
  | false => exact ⟨hstreet, nofun, rfl, rfl, rfl, rfl, rfl⟩

end Network

end Multimodal
