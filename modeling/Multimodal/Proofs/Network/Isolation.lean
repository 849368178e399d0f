import Multimodal.Proofs.Network.Reach
import Multimodal.Network.Holdings

/-! # Networks held side by side do not disturb each other

Networks share parts, and a part that several hold is not written.  A name shows the same layers, the
same linkage and the same checksum whatever happens through the other names.

* `Holdings.Sound`: every name is listed once and its parts are on the shelves.
* `Holdings.Leaves`: what a change of the holdings leaves alone.
* `leaves_assign`, `leaves_adopt`, `leaves_act`: what every operation leaves alone.
* `Holdings.Shares`: somebody else holds a part; `isShared_iff` is how a view shows it.
* `Network.Edits`, `answer_request`, `answer_edits`: what becomes of requests for a part and of changes.
-/

namespace Multimodal

/-- Two views that show the same layers, linkage and radii; who else holds them may differ. -/
structure Network.SameContent (n m : Network) : Prop where
  street : n.street.content = m.street.content
  transit : n.transit.content = m.transit.content
  linkage : n.linkage.content = m.linkage.content
  params : n.params = m.params

/-- Whether a view marks a part as held by somebody else. -/
def Network.isShared (n : Network) : NetworkPart → Bool
  | .street => n.street.shared
  | .transit => n.transit.shared
  | .linkage => n.linkage.shared

/-- A request to change a part, without a change. -/
def Network.request : NetworkPart → Edit Network Unit
  | .street => editStreet (pure ())
  | .transit => editTransit (pure ())
  | .linkage => editLinkage fun n => (n.linkage.content, ())

/-- A request is refused for a part that is marked as shared and granted for any other. -/
theorem Network.request_apply (n : Network) (part : NetworkPart) :
    Network.request part n =
      if n.isShared part then .error (.partShared part) n else .ok () n := by
  rcases n with ⟨⟨street, sharedStreet⟩, ⟨transit, sharedTransit⟩, ⟨linkage, sharedLinkage⟩, params⟩
  cases part with
  | street => cases sharedStreet <;> rfl
  | transit => cases sharedTransit <;> rfl
  | linkage => cases sharedLinkage <;> rfl

/-- A change of a part, whatever it does to it. -/
inductive Network.Edits {α : Type} : NetworkPart → Edit Network α → Prop
  | street (edit : Edit StreetLayer α) : Edits .street (Network.editStreet edit)
  | transit (edit : Edit TransitLayer α) : Edits .transit (Network.editTransit edit)
  | linkage (edit : Network → Linkage × α) : Edits .linkage (Network.editLinkage edit)

theorem Network.Edits.apply_of_shared {α : Type} {part : NetworkPart} {edit : Edit Network α}
    (h : Network.Edits part edit) {n : Network} (hshared : n.isShared part = true) :
    edit n = .error (.partShared part) n := by
  cases h <;> exact if_pos hshared

/-- A scoped copy shares the streets that are not in scope. -/
theorem Network.shared_scopedCopy (n : Network) (scope : LayerScope) :
    (n.scopedCopy scope).street.shared = !scope.street := by
  unfold scopedCopy
  cases scope.street with
  | true => rfl
  | false => rfl

theorem Network.SameContent.checksum {n m : Network} (h : n.SameContent m) :
    n.checksum = m.checksum := by
  unfold Network.checksum
  rw [h.street, h.transit]

namespace Holdings

/-! ## Names -/

theorem lookup_filter_ne {α : Type} {name other : String} (h : other ≠ name)
    (es : List (String × α)) : (es.filter (·.1 ≠ name)).lookup other = es.lookup other := by
  induction es with
  | nil => rfl
  | cons e es ih =>
    by_cases he : e.1 = name
    · have hskip : (other == e.1) = false := by
        rw [he]
        exact beq_false_of_ne h
      rw [List.filter_cons_of_neg (by simpa using he), ih, List.lookup_cons, hskip]
    · rw [List.filter_cons_of_pos (by simpa using he), List.lookup_cons, List.lookup_cons, ih]

theorem places?_drop_of_ne {h : Holdings} {name other : String} (hne : other ≠ name) :
    (h.drop name).places? other = h.places? other :=
  lookup_filter_ne hne h.held

theorem places?_assign_self (h : Holdings) (name : String) (p : Places) :
    (h.assign name p).places? name = some p := List.lookup_cons_self

theorem places?_assign_of_ne {h : Holdings} {name other : String} {p : Places}
    (hne : other ≠ name) : (h.assign name p).places? other = h.places? other := by
  show List.lookup other ((name, p) :: (h.drop name).held) = _
  rw [List.lookup_cons, beq_false_of_ne hne]
  exact places?_drop_of_ne hne

/-! ## Views -/

/-- The shelves have the parts of a view at some places. -/
structure ShownAt (h : Holdings) (p : Places) (n : Network) : Prop where
  street : h.streets[p.street]? = some n.street.content
  transit : h.transits[p.transit]? = some n.transit.content
  linkage : h.linkages[p.linkage]? = some n.linkage.content
  params : p.params = n.params

/-- A view marks exactly the parts whose places some other name has. -/
structure MarkedAt (h : Holdings) (name : String) (p : Places) (n : Network) : Prop where
  street : n.street.shared = (h.others name).any (·.street = p.street)
  transit : n.transit.shared = (h.others name).any (·.transit = p.transit)
  linkage : n.linkage.shared = (h.others name).any (·.linkage = p.linkage)

theorem view?_eq_some {h : Holdings} {name : String} {n : Network} :
    h.view? name = some n ↔
      ∃ p, h.places? name = some p ∧ h.ShownAt p n ∧ h.MarkedAt name p n := by
  unfold view?
  constructor
  · intro hview
    obtain ⟨p, hp, hview⟩ := Option.bind_eq_some_iff.1 hview
    obtain ⟨street, hstreet, hview⟩ := Option.bind_eq_some_iff.1 hview
    obtain ⟨transit, htransit, hview⟩ := Option.bind_eq_some_iff.1 hview
    obtain ⟨linkage, hlinkage, hview⟩ := Option.bind_eq_some_iff.1 hview
    cases hview
    exact ⟨p, hp, ⟨hstreet, htransit, hlinkage, rfl⟩, ⟨rfl, rfl, rfl⟩⟩
  · rintro ⟨p, hp, hshown, hmarked⟩
    rw [hp]
    obtain ⟨⟨street, sharedStreet⟩, ⟨transit, sharedTransit⟩, ⟨linkage, sharedLinkage⟩, params⟩ := n
    obtain ⟨hstreet, htransit, hlinkage, hparams⟩ := hshown
    obtain ⟨hstreet', htransit', hlinkage'⟩ := hmarked
    simp only at hstreet htransit hlinkage hparams hstreet' htransit' hlinkage'
    simp only [Option.bind_eq_bind, Option.bind_some, hstreet, htransit, hlinkage]
    rw [hparams, hstreet', htransit', hlinkage']
    rfl

/-! ## Sound holdings -/

/-- The parts at some places are on the shelves. -/
structure OnShelves (h : Holdings) (p : Places) : Prop where
  street : p.street < h.streets.size
  transit : p.transit < h.transits.size
  linkage : p.linkage < h.linkages.size

/-- Every listed name is found with its places, and its parts are on the shelves. -/
structure Sound (h : Holdings) : Prop where
  listed : ∀ e ∈ h.held, h.places? e.1 = some e.2
  onShelves : ∀ name p, h.places? name = some p → h.OnShelves p

theorem mem_held_of_places? {h : Holdings} {name : String} {p : Places}
    (hp : h.places? name = some p) : (name, p) ∈ h.held := by
  obtain ⟨l₁, l₂, hheld, -⟩ := List.lookup_eq_some_iff.1 hp
  rw [hheld]
  exact List.mem_append_right _ List.mem_cons_self

theorem mem_others {h : Holdings} (hsound : h.Sound) {name : String} {q : Places} :
    q ∈ h.others name ↔ ∃ other, other ≠ name ∧ h.places? other = some q := by
  unfold others
  constructor
  · intro hq
    obtain ⟨e, he, rfl⟩ := List.mem_map.1 hq
    obtain ⟨hheld, hne⟩ := List.mem_filter.1 he
    exact ⟨e.1, of_decide_eq_true hne, hsound.listed e hheld⟩
  · rintro ⟨other, hne, hq⟩
    refine List.mem_map.2 ⟨(other, q), List.mem_filter.2 ⟨mem_held_of_places? hq, ?_⟩, rfl⟩
    exact decide_eq_true hne

/-- A sound name shows a network. -/
theorem Sound.view? {h : Holdings} (hsound : h.Sound) {name : String} {p : Places}
    (hp : h.places? name = some p) : ∃ n, h.view? name = some n := by
  obtain ⟨hstreet, htransit, hlinkage⟩ := hsound.onShelves name p hp
  refine ⟨⟨⟨h.streets[p.street], _⟩, ⟨h.transits[p.transit], _⟩, ⟨h.linkages[p.linkage], _⟩,
    p.params⟩, view?_eq_some.2 ⟨p, hp, ⟨?_, ?_, ?_, rfl⟩, ⟨rfl, rfl, rfl⟩⟩⟩
  · exact Array.getElem?_eq_getElem hstreet
  · exact Array.getElem?_eq_getElem htransit
  · exact Array.getElem?_eq_getElem hlinkage

theorem sound_drop {h : Holdings} (hsound : h.Sound) (name : String) : (h.drop name).Sound where
  listed e he := by
    obtain ⟨hheld, hne⟩ := List.mem_filter.1 he
    rw [places?_drop_of_ne (of_decide_eq_true hne)]
    exact hsound.listed e hheld
  onShelves other p hp := by
    have hmem := mem_held_of_places? hp
    obtain ⟨hheld, -⟩ := List.mem_filter.1 hmem
    obtain ⟨hstreet, htransit, hlinkage⟩ := hsound.onShelves other p (hsound.listed _ hheld)
    exact ⟨hstreet, htransit, hlinkage⟩

theorem sound_assign {h : Holdings} (hsound : h.Sound) (name : String) {p : Places}
    (hp : h.OnShelves p) : (h.assign name p).Sound where
  listed e he := by
    rcases List.mem_cons.1 he with rfl | he
    · exact places?_assign_self h name p
    · obtain ⟨hheld, hne⟩ := List.mem_filter.1 he
      rw [places?_assign_of_ne (of_decide_eq_true hne)]
      exact hsound.listed e hheld
  onShelves other q hq := by
    have hq' : h.OnShelves q := by
      by_cases hne : other = name
      · subst hne
        rw [places?_assign_self] at hq
        cases hq
        exact hp
      · rw [places?_assign_of_ne hne] at hq
        exact hsound.onShelves other q hq
    exact ⟨hq'.street, hq'.transit, hq'.linkage⟩

/-! ## What is left alone -/

/-- A name goes on showing the same content. -/
def Leaves (h h' : Holdings) (other : String) : Prop :=
  ∀ n, h.view? other = some n → ∃ m, h'.view? other = some m ∧ n.SameContent m

/-- Shelves may grow, and entries may change where a name has none of its parts. -/
theorem leaves_of_places {h h' : Holdings} {other : String}
    (hplaces : h'.places? other = h.places? other)
    (hshelves : ∀ p, h.places? other = some p → h'.streets[p.street]? = h.streets[p.street]? ∧
      h'.transits[p.transit]? = h.transits[p.transit]? ∧
      h'.linkages[p.linkage]? = h.linkages[p.linkage]?) : h.Leaves h' other := by
  intro n hn
  obtain ⟨p, hp, hshown, -⟩ := view?_eq_some.1 hn
  obtain ⟨hstreet, htransit, hlinkage⟩ := hshelves p hp
  let m : Network :=
    { street := ⟨n.street.content, (h'.others other).any (·.street = p.street)⟩
      transit := ⟨n.transit.content, (h'.others other).any (·.transit = p.transit)⟩
      linkage := ⟨n.linkage.content, (h'.others other).any (·.linkage = p.linkage)⟩
      params := n.params }
  refine ⟨m, view?_eq_some.2 ⟨p, hplaces.trans hp, ⟨?_, ?_, ?_, hshown.params⟩, ⟨rfl, rfl, rfl⟩⟩,
    ⟨rfl, rfl, rfl, rfl⟩⟩
  · exact hstreet.trans hshown.street
  · exact htransit.trans hshown.transit
  · exact hlinkage.trans hshown.linkage

theorem leaves_drop {h : Holdings} {name other : String} (hne : other ≠ name) :
    h.Leaves (h.drop name) other :=
  leaves_of_places (places?_drop_of_ne hne) fun _ _ => ⟨rfl, rfl, rfl⟩

theorem leaves_assign {h : Holdings} {name other : String} {p : Places} (hne : other ≠ name) :
    h.Leaves (h.assign name p) other :=
  leaves_of_places (places?_assign_of_ne hne) fun _ _ => ⟨rfl, rfl, rfl⟩

/-! ## New networks -/

theorem getElem?_grown {α : Type} {xs : Array α} {a : α} {shared : Bool} {i : Nat}
    (hi : i < xs.size) : (if shared then xs else xs.push a)[i]? = xs[i]? := by
  cases shared with
  | true => rfl
  | false =>
    show (xs.push a)[i]? = xs[i]?
    rw [Array.getElem?_push, if_neg (Nat.ne_of_lt hi)]

theorem size_grown {α : Type} (xs : Array α) (a : α) (shared : Bool) :
    xs.size ≤ (if shared then xs else xs.push a).size := by
  cases shared with
  | true => exact Nat.le_refl _
  | false =>
    show xs.size ≤ (xs.push a).size
    rw [Array.size_push]
    exact Nat.le_succ _

theorem size_lt_push {α : Type} (xs : Array α) (a : α) : xs.size < (xs.push a).size := by
  rw [Array.size_push]
  exact Nat.lt_succ_self _

theorem place_lt_size_grown {α : Type} {xs : Array α} {a : α} {shared : Bool} {i : Nat}
    (hi : i < xs.size) :
    (if shared then i else xs.size) < (if shared then xs else xs.push a).size := by
  cases shared with
  | true => exact hi
  | false => exact size_lt_push xs a

/-- The holdings with the parts of a network on the shelves that it does not share. -/
def shelve (h : Holdings) (n : Network) : Holdings :=
  { h with
    streets := if n.street.shared then h.streets else h.streets.push n.street.content
    transits := if n.transit.shared then h.transits else h.transits.push n.transit.content
    linkages := if n.linkage.shared then h.linkages else h.linkages.push n.linkage.content }

/-- Where the parts of a network are that shares with the network at some places. -/
def placesFor (h : Holdings) (p : Places) (n : Network) : Places where
  street := if n.street.shared then p.street else h.streets.size
  transit := if n.transit.shared then p.transit else h.transits.size
  linkage := if n.linkage.shared then p.linkage else h.linkages.size
  params := n.params

theorem adopt_eq (h : Holdings) (p : Places) (name : String) (n : Network) :
    h.adopt p name n = (h.shelve n).assign name (h.placesFor p n) := rfl

/-- Holding a network that was made from another one leaves every other name alone, the source
included. -/
theorem leaves_adopt {h : Holdings} (hsound : h.Sound) {name other : String} {p : Places}
    {n : Network} (hne : other ≠ name) : h.Leaves (h.adopt p name n) other := by
  refine leaves_of_places (places?_assign_of_ne hne) fun q hq => ?_
  obtain ⟨hstreet, htransit, hlinkage⟩ := hsound.onShelves other q hq
  exact ⟨getElem?_grown hstreet, getElem?_grown htransit, getElem?_grown hlinkage⟩

theorem sound_shelve {h : Holdings} (hsound : h.Sound) (n : Network) : (h.shelve n).Sound := by
  refine ⟨hsound.listed, fun other q hq => ?_⟩
  obtain ⟨hstreet, htransit, hlinkage⟩ := hsound.onShelves other q hq
  exact ⟨Nat.lt_of_lt_of_le hstreet (size_grown _ _ _),
    Nat.lt_of_lt_of_le htransit (size_grown _ _ _),
    Nat.lt_of_lt_of_le hlinkage (size_grown _ _ _)⟩

theorem sound_adopt {h : Holdings} (hsound : h.Sound) (name : String) {p : Places}
    (hp : h.OnShelves p) (n : Network) : (h.adopt p name n).Sound := by
  rw [adopt_eq]
  refine sound_assign (sound_shelve hsound n) name ⟨?_, ?_, ?_⟩
  · exact place_lt_size_grown hp.street
  · exact place_lt_size_grown hp.transit
  · exact place_lt_size_grown hp.linkage

theorem sound_hold {h : Holdings} (hsound : h.Sound) (name : String) (n : Network) :
    (h.hold name n).Sound := by
  have hown := sound_shelve hsound
    ⟨⟨n.street.content, false⟩, ⟨n.transit.content, false⟩, ⟨n.linkage.content, false⟩, n.params⟩
  refine sound_assign hown name ⟨?_, ?_, ?_⟩
  · exact size_lt_push h.streets _
  · exact size_lt_push h.transits _
  · exact size_lt_push h.linkages _

theorem copy?_of_view? {h : Holdings} {source : String} {p : Places} {n : Network}
    (hp : h.places? source = some p) (hn : h.view? source = some n) (name : String)
    (scope : LayerScope) :
    h.copy? source name scope = some (h.adopt p name (n.scopedCopy scope)) := by
  unfold copy?
  rw [hp, hn]
  rfl

/-- A network made from another one shares with it the parts that are not its own. -/
theorem sharing?_adopt {h : Holdings} (hsound : h.Sound) {source name : String} {p : Places}
    (n : Network) (hne : source ≠ name) (hp : h.places? source = some p) :
    (h.adopt p name n).sharing? source name =
      some (n.street.shared, n.transit.shared, n.linkage.shared) := by
  obtain ⟨hstreet, htransit, hlinkage⟩ := hsound.onShelves source p hp
  have hsource : (h.adopt p name n).places? source = some p := (places?_assign_of_ne hne).trans hp
  have hname : (h.adopt p name n).places? name = some (h.placesFor p n) :=
    places?_assign_self _ _ _
  have hshares : ∀ (shared : Bool) (i size : Nat), i < size →
      decide (i = if shared then i else size) = shared := by
    intro shared i size hi
    cases shared with
    | true => exact decide_eq_true rfl
    | false => exact decide_eq_false (Nat.ne_of_lt hi)
  unfold sharing?
  rw [hsource, hname]
  simp only [Option.bind_eq_bind, Option.bind_some, Option.pure_def, placesFor]
  rw [hshares _ _ _ hstreet, hshares _ _ _ htransit, hshares _ _ _ hlinkage]

/-- A scoped copy shares exactly the layers that are not in scope, and the linkage if the scope is
empty. -/
theorem sharing?_copy {h : Holdings} (hsound : h.Sound) {source name : String} {p : Places}
    (scope : LayerScope) (hne : source ≠ name) (hp : h.places? source = some p) :
    ∃ h', h.copy? source name scope = some h' ∧
      h'.sharing? source name = some (!scope.street, !scope.transit, scope.isEmpty) := by
  obtain ⟨n, hn⟩ := hsound.view? hp
  refine ⟨h.adopt p name (n.scopedCopy scope), copy?_of_view? hp hn name scope, ?_⟩
  rw [sharing?_adopt hsound _ hne hp, n.shared_scopedCopy scope]
  rfl

/-! ## Operations on one network -/

theorem act?_of_view? {ε α : Type} {h : Holdings} {name : String} {n : Network}
    (hn : h.view? name = some n) (f : EStateM ε Network α) :
    h.act? name f = match f n with
      | .ok a m => some (.ok a, h.store name m)
      | .error e m => some (.error e, h.store name m) := by
  unfold act?
  rw [hn]
  rfl

theorem getElem?_stored {α : Type} {xs : Array α} {a : α} {shared : Bool} {i j : Nat}
    (hne : shared = false → i ≠ j) :
    (if shared then xs else xs.setIfInBounds i a)[j]? = xs[j]? := by
  cases shared with
  | true => rfl
  | false => exact Array.getElem?_setIfInBounds_ne (hne rfl)

theorem size_stored {α : Type} (xs : Array α) (a : α) (shared : Bool) (i : Nat) :
    (if shared then xs else xs.setIfInBounds i a).size = xs.size := by
  cases shared with
  | true => rfl
  | false => exact Array.size_setIfInBounds

theorem store_of_places? {h : Holdings} {name : String} {p : Places}
    (hp : h.places? name = some p) (m : Network) :
    h.store name m = { h with
      streets := if m.street.shared then h.streets
        else h.streets.setIfInBounds p.street m.street.content
      transits := if m.transit.shared then h.transits
        else h.transits.setIfInBounds p.transit m.transit.content
      linkages := if m.linkage.shared then h.linkages
        else h.linkages.setIfInBounds p.linkage m.linkage.content } := by
  unfold store
  rw [hp]

/-- Writing back what a holder made of a view leaves every other name alone. -/
theorem leaves_store {h : Holdings} (hsound : h.Sound) {name other : String} {n m : Network}
    (hne : other ≠ name) (hn : h.view? name = some n) (hm : n.Becomes m) :
    h.Leaves (h.store name m) other := by
  obtain ⟨p, hp, -, hmarked⟩ := view?_eq_some.1 hn
  rw [store_of_places? hp]
  refine leaves_of_places rfl fun q hq => ?_
  have hothers : q ∈ h.others name := (mem_others hsound).2 ⟨other, hne, hq⟩
  refine ⟨getElem?_stored fun hown heq => ?_, getElem?_stored fun hown heq => ?_,
    getElem?_stored fun hown heq => ?_⟩
  · rw [hm.street.shared, hmarked.street, List.any_eq_false] at hown
    exact hown q hothers (decide_eq_true heq.symm)
  · rw [hm.transit.shared, hmarked.transit, List.any_eq_false] at hown
    exact hown q hothers (decide_eq_true heq.symm)
  · rw [hm.linkage.shared, hmarked.linkage, List.any_eq_false] at hown
    exact hown q hothers (decide_eq_true heq.symm)

theorem sound_store {h : Holdings} (hsound : h.Sound) (name : String) (m : Network) :
    (h.store name m).Sound := by
  cases hp : h.places? name with
  | none =>
    unfold store
    rw [hp]
    exact hsound
  | some p =>
    rw [store_of_places? hp]
    refine ⟨hsound.listed, fun other q hq => ?_⟩
    obtain ⟨hstreet, htransit, hlinkage⟩ := hsound.onShelves other q hq
    refine ⟨?_, ?_, ?_⟩
    · exact Nat.lt_of_lt_of_eq hstreet (size_stored _ _ _ _).symm
    · exact Nat.lt_of_lt_of_eq htransit (size_stored _ _ _ _).symm
    · exact Nat.lt_of_lt_of_eq hlinkage (size_stored _ _ _ _).symm

/-- An operation that a holder may carry out keeps the holdings sound and leaves every other name
alone, whether it answers or is refused. -/
theorem sound_and_leaves_act {ε α : Type} {h h' : Holdings} (hsound : h.Sound) {name : String}
    {f : EStateM ε Network α} {answer : Except ε α} (hf : ∀ n : Network, Keeps n.Becomes f)
    (hact : h.act? name f = some (answer, h')) :
    h'.Sound ∧ ∀ other, other ≠ name → h.Leaves h' other := by
  cases hn : h.view? name with
  | none =>
    unfold act? at hact
    rw [hn] at hact
    cases hact
  | some n =>
    have hm := hf n n (Network.Becomes.refl n)
    rw [act?_of_view? hn] at hact
    cases hx : f n with
    | ok a m =>
      rw [hx] at hact hm
      cases hact
      exact ⟨sound_store hsound name m, fun other hne => leaves_store hsound hne hn hm⟩
    | error e m =>
      rw [hx] at hact hm
      cases hact
      exact ⟨sound_store hsound name m, fun other hne => leaves_store hsound hne hn hm⟩

/-! ## Refusals -/

/-- Two names share this part. -/
def Shares (h : Holdings) (part : NetworkPart) (a b : String) : Prop :=
  ∃ shared, h.sharing? a b = some shared ∧
    (match part with
      | .street => shared.1
      | .transit => shared.2.1
      | .linkage => shared.2.2) = true

/-- Two places are the same where the part is kept. -/
def samePlace (p q : Places) : NetworkPart → Prop
  | .street => p.street = q.street
  | .transit => p.transit = q.transit
  | .linkage => p.linkage = q.linkage

theorem shares_iff {h : Holdings} {part : NetworkPart} {a b : String} {p : Places}
    (hp : h.places? a = some p) :
    h.Shares part a b ↔ ∃ q, h.places? b = some q ∧ samePlace p q part := by
  unfold Shares sharing?
  rw [hp]
  constructor
  · rintro ⟨shared, hshared, hpart⟩
    rw [Option.bind_eq_bind, Option.bind_some] at hshared
    obtain ⟨q, hq, hshared⟩ := Option.bind_eq_some_iff.1 hshared
    cases hshared
    refine ⟨q, hq, ?_⟩
    cases part with
    | street =>
      show p.street = q.street
      exact of_decide_eq_true hpart
    | transit =>
      show p.transit = q.transit
      exact of_decide_eq_true hpart
    | linkage =>
      show p.linkage = q.linkage
      exact of_decide_eq_true hpart
  · rintro ⟨q, hq, hsame⟩
    rw [hq]
    refine ⟨_, rfl, ?_⟩
    cases part with
    | street =>
      have hplace : p.street = q.street := hsame
      exact decide_eq_true hplace
    | transit =>
      have hplace : p.transit = q.transit := hsame
      exact decide_eq_true hplace
    | linkage =>
      have hplace : p.linkage = q.linkage := hsame
      exact decide_eq_true hplace

/-- A view marks a part exactly when some other name shares it. -/
theorem isShared_iff {h : Holdings} (hsound : h.Sound) {name : String} {n : Network}
    (hn : h.view? name = some n) (part : NetworkPart) :
    n.isShared part = true ↔ ∃ other, other ≠ name ∧ h.Shares part name other := by
  obtain ⟨p, hp, -, hmarked⟩ := view?_eq_some.1 hn
  have hany : n.isShared part = true ↔ ∃ q ∈ h.others name, samePlace p q part := by
    cases part with
    | street =>
      rw [Network.isShared, hmarked.street, List.any_eq_true]
      exact exists_congr fun q => and_congr_right fun _ => decide_eq_true_iff.trans eq_comm
    | transit =>
      rw [Network.isShared, hmarked.transit, List.any_eq_true]
      exact exists_congr fun q => and_congr_right fun _ => decide_eq_true_iff.trans eq_comm
    | linkage =>
      rw [Network.isShared, hmarked.linkage, List.any_eq_true]
      exact exists_congr fun q => and_congr_right fun _ => decide_eq_true_iff.trans eq_comm
  rw [hany]
  constructor
  · rintro ⟨q, hq, hsame⟩
    obtain ⟨other, hne, hplaces⟩ := (mem_others hsound).1 hq
    exact ⟨other, hne, (shares_iff hp).2 ⟨q, hplaces, hsame⟩⟩
  · rintro ⟨other, hne, hshares⟩
    obtain ⟨q, hplaces, hsame⟩ := (shares_iff hp).1 hshares
    exact ⟨q, (mem_others hsound).2 ⟨other, hne, hplaces⟩, hsame⟩

/-- A request is refused exactly when some other name shares the part, and is granted otherwise. -/
theorem answer_request {h : Holdings} (hsound : h.Sound) {name : String} {n : Network}
    (hn : h.view? name = some n) (part : NetworkPart) :
    ((∃ other, other ≠ name ∧ h.Shares part name other) →
        (h.act? name (Network.request part)).map (·.1) = some (.error (.partShared part))) ∧
      ((¬∃ other, other ≠ name ∧ h.Shares part name other) →
        (h.act? name (Network.request part)).map (·.1) = some (.ok ())) := by
  rw [← isShared_iff hsound hn, act?_of_view? hn, Network.request_apply]
  cases n.isShared part with
  | true => exact ⟨fun _ => rfl, fun hno => absurd rfl hno⟩
  | false => exact ⟨fun hno => absurd hno Bool.false_ne_true, fun _ => rfl⟩

/-- A change of a part that some other name shares is refused. -/
theorem answer_edits {h : Holdings} (hsound : h.Sound) {name : String} {n : Network}
    (hn : h.view? name = some n) {part : NetworkPart} {α : Type} {edit : Edit Network α}
    (hedit : Network.Edits part edit) (hshares : ∃ other, other ≠ name ∧ h.Shares part name other) :
    (h.act? name edit).map (·.1) = some (.error (.partShared part)) := by
  rw [← isShared_iff hsound hn] at hshares
  rw [act?_of_view? hn, hedit.apply_of_shared hshares]
  rfl

end Holdings

end Multimodal
