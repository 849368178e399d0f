import Multimodal.Network.Basic

/-! # Networks held side by side

Networks held under different names may share parts.  The parts are kept on shelves and every network
names the places of its own; two networks share a part when they name the same place.  A part may be
changed only through the one network that holds it, so what another network shows never changes.

* `Places`, `Holdings`: the networks and their parts.
* `Holdings.view?`: a network as its holder sees it.
* `Holdings.hold`, `Holdings.clone?`, `Holdings.copy?`, `Holdings.drop`: networks come and go.
* `Holdings.act?`: an operation on one network.
-/

namespace Multimodal

/-- Where the parts of a network are kept. -/
structure Places where
  street : Nat
  transit : Nat
  linkage : Nat
  params : LinkageParams
  deriving DecidableEq

/-- Shelves of parts, and the networks that hold them by name. -/
structure Holdings where
  streets : Array StreetLayer := #[]
  transits : Array TransitLayer := #[]
  linkages : Array Linkage := #[]
  held : List (String × Places) := []

namespace Holdings

/-- The places of the network with this name. -/
def places? (h : Holdings) (name : String) : Option Places := h.held.lookup name

/-- The places of all other networks. -/
def others (h : Holdings) (name : String) : List Places :=
  (h.held.filter (·.1 ≠ name)).map (·.2)

/-- A network as its holder sees it. -/
def view? (h : Holdings) (name : String) : Option Network := do
  let p ← h.places? name
  let others := h.others name
  return {
    street := ⟨← h.streets[p.street]?, others.any (·.street = p.street)⟩
    transit := ⟨← h.transits[p.transit]?, others.any (·.transit = p.transit)⟩
    linkage := ⟨← h.linkages[p.linkage]?, others.any (·.linkage = p.linkage)⟩
    params := p.params }

/-- Which parts two networks share: the street layer, the transit layer, the linkage. -/
def sharing? (h : Holdings) (a b : String) : Option (Bool × Bool × Bool) := do
  let p ← h.places? a
  let q ← h.places? b
  return (p.street = q.street, p.transit = q.transit, p.linkage = q.linkage)

/-- The holdings without the network of this name; its parts stay on the shelves. -/
def drop (h : Holdings) (name : String) : Holdings :=
  { h with held := h.held.filter (·.1 ≠ name) }

/-- The holdings with a name for these places, which it had not before. -/
def assign (h : Holdings) (name : String) (p : Places) : Holdings :=
  { h with held := (name, p) :: (h.drop name).held }

/-- A network put on the shelves and held under a name. -/
def hold (h : Holdings) (name : String) (n : Network) : Holdings :=
  let p : Places := ⟨h.streets.size, h.transits.size, h.linkages.size, n.params⟩
  let h := { h with
    streets := h.streets.push n.street.content
    transits := h.transits.push n.transit.content
    linkages := h.linkages.push n.linkage.content }
  h.assign name p

/-- A second name for a network; every part is shared. -/
def clone? (h : Holdings) (source name : String) : Option Holdings :=
  (h.places? source).map (h.assign name)

/-- A network made from the one at some places, held under a name.  The parts that it shares are the
ones at these places, its own go on the shelves. -/
def adopt (h : Holdings) (p : Places) (name : String) (n : Network) : Holdings :=
  let shelved := { h with
    streets := if n.street.shared then h.streets else h.streets.push n.street.content
    transits := if n.transit.shared then h.transits else h.transits.push n.transit.content
    linkages := if n.linkage.shared then h.linkages else h.linkages.push n.linkage.content }
  shelved.assign name {
    street := if n.street.shared then p.street else h.streets.size
    transit := if n.transit.shared then p.transit else h.transits.size
    linkage := if n.linkage.shared then p.linkage else h.linkages.size
    params := n.params }

/-- A scoped copy of a network under a name. -/
def copy? (h : Holdings) (source name : String) (scope : LayerScope) : Option Holdings := do
  return h.adopt (← h.places? source) name ((← h.view? source).scopedCopy scope)

/-- The holdings with the parts of a view written back where the view's holder may change them. -/
def store (h : Holdings) (name : String) (n : Network) : Holdings :=
  match h.places? name with
  | none => h
  | some p =>
    { h with
      streets := if n.street.shared then h.streets
        else h.streets.setIfInBounds p.street n.street.content
      transits := if n.transit.shared then h.transits
        else h.transits.setIfInBounds p.transit n.transit.content
      linkages := if n.linkage.shared then h.linkages
        else h.linkages.setIfInBounds p.linkage n.linkage.content }

/-- An operation on the network of this name. -/
def act? {ε α : Type} (h : Holdings) (name : String) (f : EStateM ε Network α) :
    Option (Except ε α × Holdings) := do
  match f (← h.view? name) with
  | .ok a n => return (.ok a, h.store name n)
  | .error e n => return (.error e, h.store name n)

end Holdings

end Multimodal
