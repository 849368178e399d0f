import Multimodal.Linkage.Basic

/-! # Transfers

A transfer connects two linked stops that are no further apart than the transfer radius.

* `Linkage.transfersFrom`: the transfers of one stop, as the links determine them.
* `Linkage.findAllTransfers`: the transfers of every stop, found anew.
* `Linkage.findTransfers`: found anew only where they may lead to or from some stops.
-/

namespace Multimodal

namespace Linkage

/-- Whether a transfer comes no later than another: shorter first, then the lower position. -/
def shorter (a b : Transfer) : Bool :=
  a.distance < b.distance || (a.distance = b.distance && a.target ≤ b.target)

/-- The transfers that start at a stop. -/
def transfersFrom (l : Linkage) (t : TransitLayer) (radius : Float) (s : StopIndex) :
    List Transfer :=
  match (l.link s).vertex?, t.stops[s]? with
  | some _, some origin =>
    let found := t.stops.toList.zipIdx.filterMap fun (stop, other) =>
      let d := stop.coordinate.distance origin.coordinate
      if other ≠ s ∧ (l.link other).vertex?.isSome ∧ d ≤ radius then
        some ⟨other, millimetres d⟩
      else none
    found.mergeSort shorter
  | _, _ => []

/-- The linkage with the transfers of some stops found anew. -/
def recompute (l : Linkage) (t : TransitLayer) (radius : Float) (stops : List StopIndex) :
    Linkage :=
  stops.foldl
    (fun l s =>
      let transfers := l.transfersFrom t radius s
      ⟨l.stops.modify s fun access => { access with transfers }⟩)
    l

/-- The linkage with the transfers of every stop found anew. -/
def findAllTransfers (l : Linkage) (t : TransitLayer) (radius : Float) : Linkage :=
  l.recompute t radius (List.range t.stops.size)

/-- The stops within the transfer radius of a stop. -/
def around (t : TransitLayer) (radius : Float) (s : StopIndex) : List StopIndex :=
  match t.stops[s]? with
  | none => []
  | some origin =>
    t.stops.toList.zipIdx.filterMap fun (stop, other) =>
      if stop.coordinate.distance origin.coordinate ≤ radius then some other else none

/-- The stops whose transfers may change when the links of some stops change: these stops and all
within the transfer radius of one of them. -/
def affected (t : TransitLayer) (radius : Float) (dirty : List StopIndex) : IdSet :=
  IdSet.ofList (dirty ++ dirty.flatMap (around t radius))

/-- The linkage with the transfers found anew where they may have changed, and the number of stops
looked at. -/
def findTransfers (l : Linkage) (t : TransitLayer) (radius : Float) (dirty : List StopIndex) :
    Linkage × Nat :=
  let stops := affected t radius dirty
  (l.recompute t radius stops.toList, stops.size)

end Linkage

end Multimodal
