import Multimodal.Linkage.Transfer
import Multimodal.Street.Content
import Multimodal.Transit.Content

/-! # Networks

A network is a street layer, a transit layer and the linkage between them.  Several holders may share
a part; whoever shares a part may read it and may not change it.  A holder's view of a network
therefore says of each part whether somebody else holds it too.

* `Part`, `Network`: a network as one holder sees it.
* `LayerScope`, `Network.scopedCopy`: a copy in which some layers may be changed.
* `Network.editStreet`, `Network.editTransit`, `Network.editLinkage`: changes, refused for shared
  parts.
* `Network.build`: a network from its layers, with everything that follows from them.
* `Network.checksum`: the hash of what the layers hold.
-/

namespace Multimodal

/-! ## Scopes -/

/-- Which layers a scenario changes. -/
structure LayerScope where
  street : Bool
  transit : Bool
  deriving DecidableEq, Repr

namespace LayerScope

/-- No layer. -/
def none : LayerScope := ⟨false, false⟩

/-- The layers of either scope. -/
def union (a b : LayerScope) : LayerScope := ⟨a.street || b.street, a.transit || b.transit⟩

/-- Whether no layer is changed. -/
def isEmpty (s : LayerScope) : Bool := !s.street && !s.transit

end LayerScope

/-! ## Views of a network -/

/-- A part as one holder sees it: what it holds, and whether another holder has it too. -/
structure Part (α : Type) where
  content : α
  shared : Bool
  deriving DecidableEq

/-- A network as one holder sees it. -/
structure Network where
  street : Part StreetLayer
  transit : Part TransitLayer
  linkage : Part Linkage
  params : LinkageParams
  deriving DecidableEq

namespace Network

/-- The hash of the content of both layers; what is derived from them does not count. -/
def checksum (n : Network) : ContentHash :=
  digestRoot [n.street.content.digest, n.transit.content.digest]

/-- The envelope around the touched edges, widened by a distance. -/
def changedRegion? (n : Network) (metres : Float) : Option Envelope :=
  n.street.content.changedRegion? metres

/-- A network assembled from its layers, with every derived part built. -/
def build (street : StreetLayer) (transit : TransitLayer) (params : LinkageParams) : Network :=
  let street := street.withEdgeLists.forgetChanges
  let transit := transit.withMembership
  let linked := (Linkage.linkStops {} street transit params .all).1
  { street := ⟨street, false⟩
    transit := ⟨transit, false⟩
    linkage := ⟨linked.findAllTransfers transit params.transferRadius, false⟩
    params }

/-! ## Copies -/

/-- The copy that a scenario works on, as its holder sees it while the source is still held.  The
layers in scope are the holder's own, with no edge noted as touched; so is the linkage, unless the
scope is empty.  The rest is shared with the source. -/
def scopedCopy (n : Network) (scope : LayerScope) : Network where
  street :=
    if scope.street then ⟨n.street.content.forgetChanges, false⟩ else ⟨n.street.content, true⟩
  transit := ⟨n.transit.content, !scope.transit⟩
  linkage := ⟨n.linkage.content, scope.isEmpty⟩
  params := n.params

/-! ## Changes -/

variable {α : Type}

/-- A change to the street layer. -/
def editStreet (edit : Edit StreetLayer α) : Edit Network α := fun n =>
  if n.street.shared then .error (.partShared .street) n
  else
    match edit n.street.content with
    | .ok a street => .ok a { n with street := ⟨street, false⟩ }
    | .error e street => .error e { n with street := ⟨street, false⟩ }

/-- A change to the transit layer. -/
def editTransit (edit : Edit TransitLayer α) : Edit Network α := fun n =>
  if n.transit.shared then .error (.partShared .transit) n
  else
    match edit n.transit.content with
    | .ok a transit => .ok a { n with transit := ⟨transit, false⟩ }
    | .error e transit => .error e { n with transit := ⟨transit, false⟩ }

/-- A change to the linkage, which may look at both layers. -/
def editLinkage (edit : Network → Linkage × α) : Edit Network α := fun n =>
  if n.linkage.shared then .error (.partShared .linkage) n
  else
    let (linkage, a) := edit n
    .ok a { n with linkage := ⟨linkage, false⟩ }

/-! ## Derived parts -/

/-- Builds the edge lists anew. -/
def buildEdgeLists : Edit Network Unit := editStreet (modify (·.withEdgeLists))

/-- Builds the membership lists anew. -/
def buildMembership : Edit Network Unit := editTransit (modify (·.withMembership))

/-- Links the selected stops anew and answers which they were. -/
def linkStops (selection : StopSelection) : Edit Network (List StopIndex) :=
  editLinkage fun n =>
    n.linkage.content.linkStops n.street.content n.transit.content n.params selection

/-- Finds the transfers around some stops anew and answers how many stops were looked at. -/
def findTransfers (dirty : List StopIndex) : Edit Network Nat :=
  editLinkage fun n =>
    n.linkage.content.findTransfers n.transit.content n.params.transferRadius dirty

/-- Finds every transfer anew and answers how many stops were looked at. -/
def findAllTransfers : Edit Network Nat :=
  editLinkage fun n =>
    (n.linkage.content.findAllTransfers n.transit.content n.params.transferRadius,
      n.transit.content.stops.size)

end Network

end Multimodal
