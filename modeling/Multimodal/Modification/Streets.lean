import Multimodal.Modification.Step

/-! # Changing the streets

Three kinds of modification change the street layer.

* `ModifyStreets`: other speeds or permissions inside an envelope.
* `RemoveStreets`: the streets inside an envelope are closed.
* `AddStreets`: a new street that meets the old ones at both ends.

Each kind has a `resolve`, which looks at the layer and answers what it found and what speaks against
the modification, and an `apply`, which goes by what was found.
-/

namespace Multimodal

/-! ## Other speeds and permissions -/

/-- Scales the speed of every edge that touches an envelope, gives it other permissions, or both. -/
structure ModifyStreets where
  envelope : Envelope
  speedFactor : Option Float := none
  permissions : Option Permissions := none
  found : List EdgeId := []
  deriving DecidableEq, Repr

namespace ModifyStreets

/-- What is wrong with the parameters. -/
def faults (m : ModifyStreets) : List Remark :=
  (if m.envelope.isValid then [] else [.invalidEnvelope]) ++
    match m.speedFactor, m.permissions with
    | some factor, _ => if isFactor factor then [] else [.badSpeedFactor factor]
    | none, none => [.nothingToChange]
    | none, some _ => []

/-- Looks for the edges, unless the parameters are faulty. -/
def resolve (m : ModifyStreets) (street : StreetLayer) : ModifyStreets × List Remark :=
  if m.faults.isEmpty then
    let found := street.edgesIntersecting m.envelope
    ({ m with found }, if found.isEmpty then [.noStreetsInside] else [])
  else (m, m.faults)

/-- The speed of an edge after scaling. -/
def scaledSpeed (speed : UInt16) (factor : Float) : UInt16 := storedSpeed (speed.toFloat * factor)

/-- Changes one of the edges that were found. -/
def applyToEdge (m : ModifyStreets) (e : EdgeId) : Step StreetLayer Unit := do
  if let some factor := m.speedFactor then
    match (← Step.target).edge? e with
    | none => Step.fail (.edgeDisappeared e)
    | some edge => Step.edit (StreetLayer.setSpeed e (scaledSpeed edge.speed factor))
  if let some permissions := m.permissions then
    Step.edit (StreetLayer.setPermissions e permissions)

/-- Changes the edges that were found. -/
def apply (m : ModifyStreets) : Step StreetLayer Unit := m.found.forM m.applyToEdge

end ModifyStreets

/-! ## Closed streets -/

/-- Removes every edge that touches an envelope. -/
structure RemoveStreets where
  envelope : Envelope
  found : List EdgeId := []
  deriving DecidableEq, Repr

namespace RemoveStreets

/-- Looks for the edges, unless the envelope is no envelope. -/
def resolve (m : RemoveStreets) (street : StreetLayer) : RemoveStreets × List Remark :=
  if m.envelope.isValid then
    let found := street.edgesIntersecting m.envelope
    ({ m with found }, if found.isEmpty then [.noStreetsInside] else [])
  else (m, [.invalidEnvelope])

/-- Removes one edge; answers whether an earlier removal had taken it. -/
def applyToEdge (e : EdgeId) : Step StreetLayer Bool := do
  if ((← Step.target).edge? e).isNone then return true
  Step.edit (StreetLayer.removeEdge e)
  return false

/-- Removes the edges that were found and remarks how many were gone already. -/
def apply (m : RemoveStreets) : Step StreetLayer Unit := do
  let gone ← m.found.mapM applyToEdge
  let already := gone.count true
  if 0 < already then Step.warn (.alreadyRemoved already)

end RemoveStreets

/-! ## New streets -/

/-- Lays a street through some points, given in degrees.  Its ends snap to the nearest connected
vertices; the points between become new vertices. -/
structure AddStreets where
  coordinates : List (Float × Float)
  speedKph : Float
  permissions : Permissions := .all
  endPoints : Option (VertexId × VertexId) := none
  deriving DecidableEq, Repr

namespace AddStreets

/-- The point in fixed-point degrees. -/
def place (p : Float × Float) : Coordinate := .ofDegrees p.1 p.2

/-- The vertex that an end snaps to, or why there is none. -/
def snap (street : StreetLayer) (radius : Float) (which : StreetEnd) (p : Float × Float) :
    Option VertexId × List Remark :=
  match street.nearestVertex? (place p) radius with
  | some (v, _) => (some v, [])
  | none => (none, [.endOffStreets which p.1 p.2 radius])

/-- Snaps both ends, also where something else is wrong; a street without points is refused before
anything is looked for. -/
def resolve (m : AddStreets) (street : StreetLayer) (radius : Float) : AddStreets × List Remark :=
  match m.coordinates.head?, m.coordinates.getLast? with
  | some first, some last =>
    let (start, startProblems) := snap street radius .first first
    let (finish, finishProblems) := snap street radius .last last
    let endPoints := match start, finish with
      | some a, some b => some (a, b)
      | _, _ => none
    ({ m with endPoints },
      (if isFactor m.speedKph then [] else [.badSpeed m.speedKph]) ++
        (if m.coordinates.length < 2 then [.tooFewCoordinates] else []) ++
        startProblems ++ finishProblems)
  | _, _ => (m, [.noCoordinates])

/-- The points between the ends. -/
def interior (m : AddStreets) : List Coordinate := (m.coordinates.tail.dropLast).map place

/-- Lays the street between two vertices. -/
def lay (m : AddStreets) (start finish : VertexId) : Step StreetLayer Unit := do
  let between ← m.interior.mapM fun c => Step.edit (StreetLayer.addVertex c)
  let path := start :: between ++ [finish]
  (path.zip path.tail).forM fun (a, b) => do
    let _ ← Step.edit (StreetLayer.addStreet a b (speedOfKph m.speedKph) m.permissions)

/-- Lays the street between the vertices that were found. -/
def apply (m : AddStreets) : Step Network Unit :=
  match m.endPoints with
  | none => Step.fail .notResolved
  | some (start, finish) => Step.onStreet (m.lay start finish)

end AddStreets

end Multimodal
