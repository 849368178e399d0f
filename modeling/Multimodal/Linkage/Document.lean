import Multimodal.Json.Decode
import Multimodal.Linkage.Basic

/-! # Linkage radii as a document

* `LinkageParams.ofText`: the radii of a text; those that are missing take their defaults.
-/

namespace Multimodal

namespace LinkageParams

/-- The radii read so far. -/
structure Draft where
  link : Option Float := none
  tree : Option Float := none
  transfer : Option Float := none

/-- One more radius. -/
def Draft.step (d : Draft) (key : String) (r : Reading) : Except DocumentError Draft :=
  match key with
  | "link_radius_meters" => do return { d with link := ← r.once d.link Reading.asFloat }
  | "stop_tree_radius_meters" => do return { d with tree := ← r.once d.tree Reading.asFloat }
  | "transfer_radius_meters" => do return { d with transfer := ← r.once d.transfer Reading.asFloat }
  | _ => r.ignored d

/-- The radii with defaults for those that are missing. -/
def Draft.finish (d : Draft) : LinkageParams :=
  let default : LinkageParams := {}
  ⟨d.link.getD default.linkRadius, d.tree.getD default.treeRadius,
    d.transfer.getD default.transferRadius⟩

/-- The radii of a tree. -/
def ofReading (r : Reading) : Except DocumentError LinkageParams :=
  (r.record ["link_radius_meters", "stop_tree_radius_meters", "transfer_radius_meters"]
    Draft.step {}).map Draft.finish

/-- The radii of a text. -/
def ofText (s : String) : Except DocumentError LinkageParams := (Json.read s).decode ofReading

end LinkageParams

end Multimodal
