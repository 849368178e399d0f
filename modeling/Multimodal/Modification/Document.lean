import Multimodal.Json.Decode
import Multimodal.Json.Printer
import Multimodal.Modification.Basic

/-! # Modifications as documents

A modification is written as an object: its kind as `type`, its parameters, and its comment if it has
one.  What resolving it found and what was recorded is not written.

* `Modification.toJson`: the document.
* `Modification.ofReading`: a modification from a document; members that are not known are ignored.
-/

namespace Multimodal

/-! ## Parameters -/

namespace Envelope

/-- The document of an envelope. -/
def toJson (e : Envelope) : Json :=
  .object [("min_lat", .ofFloat e.minLatitude), ("min_lon", .ofFloat e.minLongitude),
    ("max_lat", .ofFloat e.maxLatitude), ("max_lon", .ofFloat e.maxLongitude)]

/-- An envelope from its document, which may also be an array of its sides. -/
def ofJson? : Json → Option Envelope
  | .object members => do
    return ⟨← Json.field "min_lat" Json.asFloat? members,
      ← Json.field "min_lon" Json.asFloat? members,
      ← Json.field "max_lat" Json.asFloat? members,
      ← Json.field "max_lon" Json.asFloat? members⟩
  | .array [south, west, north, east] => do
    return ⟨← south.asFloat?, ← west.asFloat?, ← north.asFloat?, ← east.asFloat?⟩
  | _ => none

end Envelope

namespace Permissions

/-- Permissions are written as the number of their bits. -/
def toJson (p : Permissions) : Json := .ofNat p.bits.toNat

/-- Permissions from their bits. -/
def ofJson? (v : Json) : Option Permissions := (v.asNatural? 255).map fun n => ⟨n.toUInt8⟩

end Permissions

namespace Seconds

/-- A time is written as a number. -/
def toJson (t : Seconds) : Json := .ofNat t.toNat

/-- A time from a number. -/
def ofJson? (v : Json) : Option Seconds := (v.asNatural? (UInt32.size - 1)).map Nat.toUInt32

end Seconds

namespace TransitMode

/-- A mode is written as its name. -/
def toJson (m : TransitMode) : Json := .string m.name

/-- A mode from its name, or from an object whose only member is named for it and holds nothing. -/
def ofJson? : Json → Option TransitMode
  | .string name => ofName? name
  | .object [(name, .null)] | .object [(name, .object [])] => ofName? name
  | _ => none

end TransitMode

namespace StopSpec

/-- The document of a stop of a new route. -/
def toJson (s : StopSpec) : Json :=
  .object (("id", .string s.id) :: Json.optional "name" .string s.name ++
    Json.optional "lat" .ofFloat s.latitude ++ Json.optional "lon" .ofFloat s.longitude)

/-- The fields of a stop from the items of an array, those at the end being optional. -/
def ofItems? : List Json → Option StopSpec
  | [] => none
  | id :: rest => do
    if 3 < rest.length then none
    return {
      id := ← id.asText?
      name := ← Json.asOption? Json.asText? (rest[0]?.getD .null)
      latitude := ← Json.asOption? Json.asFloat? (rest[1]?.getD .null)
      longitude := ← Json.asOption? Json.asFloat? (rest[2]?.getD .null) }

/-- A stop from its document, which may also be an array of its fields. -/
def ofJson? : Json → Option StopSpec
  | .object members => do
    return {
      id := ← Json.field "id" Json.asText? members
      name := ← Json.fieldOption "name" Json.asText? members
      latitude := ← Json.fieldOption "lat" Json.asFloat? members
      longitude := ← Json.fieldOption "lon" Json.asFloat? members }
  | .array items => ofItems? items
  | _ => none

end StopSpec

/-- A point in degrees is written as a pair. -/
def pointToJson (p : Float × Float) : Json := .array [.ofFloat p.1, .ofFloat p.2]

/-- A point from a pair. -/
def pointOfJson? : Json → Option (Float × Float)
  | .array [latitude, longitude] => do return (← latitude.asFloat?, ← longitude.asFloat?)
  | _ => none

/-- A list of texts. -/
def textsToJson (ss : List String) : Json := .ofList .string ss

/-- A list of texts from an array. -/
def textsOfJson? : Json → Option (List String) := Json.asList? Json.asText?

/-! ## The eight kinds -/

/-- The parameters of a change, in their order. -/
def Change.members : Change → List (String × Json)
  | modifyStreets m =>
    ("envelope", m.envelope.toJson) :: Json.optional "speedFactor" .ofFloat m.speedFactor ++
      Json.optional "permissions" Permissions.toJson m.permissions
  | removeStreets m => [("envelope", m.envelope.toJson)]
  | addStreets m =>
    [("coordinates", .ofList pointToJson m.coordinates), ("speedKph", .ofFloat m.speedKph),
      ("permissions", m.permissions.toJson)]
  | removeTrips m => [("routes", textsToJson m.routes), ("trips", textsToJson m.trips)]
  | removeStops m => [("routes", textsToJson m.routes), ("stops", textsToJson m.stops)]
  | adjustSpeed m => [("routes", textsToJson m.routes), ("scale", .ofFloat m.scale)]
  | adjustDwellTime m =>
    ("routes", textsToJson m.routes) :: ("stops", textsToJson m.stops) ::
      (Json.optional "dwellSecs" Seconds.toJson m.dwell ++ Json.optional "scale" .ofFloat m.scale)
  | addTrips m =>
    [("routeId", .string m.routeId), ("routeName", .string m.routeName), ("mode", m.mode.toJson),
      ("stops", .ofList StopSpec.toJson m.stops), ("hopTimes", .ofList Seconds.toJson m.hops),
      ("dwellTimes", .ofList Seconds.toJson m.dwells),
      ("departures", .ofList Seconds.toJson m.departures)]

/-- How the parameters of each kind are read. -/
def Change.readers : List (String × (List (String × Json) → Option Change)) :=
  [("modify-streets", fun ms => do
      return modifyStreets {
        envelope := ← Json.field "envelope" Envelope.ofJson? ms
        speedFactor := ← Json.fieldOption "speedFactor" Json.asFloat? ms
        permissions := ← Json.fieldOption "permissions" Permissions.ofJson? ms }),
    ("remove-streets", fun ms => do
      return removeStreets { envelope := ← Json.field "envelope" Envelope.ofJson? ms }),
    ("add-streets", fun ms => do
      return addStreets {
        coordinates := ← Json.field "coordinates" (Json.asList? pointOfJson?) ms
        speedKph := ← Json.field "speedKph" Json.asFloat? ms
        permissions := ← Json.fieldOr "permissions" .all Permissions.ofJson? ms }),
    ("remove-trips", fun ms => do
      return removeTrips {
        routes := ← Json.fieldOr "routes" [] textsOfJson? ms
        trips := ← Json.fieldOr "trips" [] textsOfJson? ms }),
    ("remove-stops", fun ms => do
      return removeStops {
        routes := ← Json.fieldOr "routes" [] textsOfJson? ms
        stops := ← Json.field "stops" textsOfJson? ms }),
    ("adjust-speed", fun ms => do
      return adjustSpeed {
        routes := ← Json.field "routes" textsOfJson? ms
        scale := ← Json.field "scale" Json.asFloat? ms }),
    ("adjust-dwell-time", fun ms => do
      return adjustDwellTime {
        routes := ← Json.field "routes" textsOfJson? ms
        stops := ← Json.fieldOr "stops" [] textsOfJson? ms
        dwell := ← Json.fieldOption "dwellSecs" Seconds.ofJson? ms
        scale := ← Json.fieldOption "scale" Json.asFloat? ms }),
    ("add-trips", fun ms => do
      return addTrips {
        routeId := ← Json.field "routeId" Json.asText? ms
        routeName := ← Json.fieldOr "routeName" "" Json.asText? ms
        mode := ← Json.field "mode" TransitMode.ofJson? ms
        stops := ← Json.field "stops" (Json.asList? StopSpec.ofJson?) ms
        hops := ← Json.field "hopTimes" (Json.asList? Seconds.ofJson?) ms
        dwells := ← Json.field "dwellTimes" (Json.asList? Seconds.ofJson?) ms
        departures := ← Json.field "departures" (Json.asList? Seconds.ofJson?) ms })]

/-! ## Modifications -/

/-- The document of what belongs to every kind. -/
def Diagnostics.members (d : Diagnostics) : List (String × Json) :=
  Json.optional "comment" .string d.comment

namespace Modification

/-- The document of a modification. -/
def toJson (m : Modification) : Json :=
  .object (("type", .string m.change.typeName) :: m.change.members ++ m.diagnostics.members)

/-- The reader of a kind's parameters, with the members read so far. -/
structure Draft where
  reader? : Option (List (String × Json) → Option Change) := none
  members : List (String × Json) := []

/-- One more member.  The kind is looked at as soon as it is read; everything else waits until all is
read, since what it means depends on the kind. -/
def Draft.step (depth : Nat) (d : Draft) (key : String) (r : Reading) :
    Except DocumentError Draft :=
  if key = "type" then
    if d.reader?.isSome then .error .shape
    else do
      let kind ← r.asText
      match Change.readers.lookup kind with
      | none => .error .shape
      | some reader => .ok { d with reader? := some reader }
  else do
    let v ← Reading.decoded (r.value depth)
    .ok { d with members := d.members ++ [(key, v)] }

/-- The modification that the members describe. -/
def Draft.finish (d : Draft) : Except DocumentError Modification :=
  let found := do
    let reader ← d.reader?
    let change ← reader d.members
    let comment ← Json.fieldOption "comment" Json.asText? d.members
    return (⟨change, { comment }⟩ : Modification)
  match found with
  | some m => .ok m
  | none => .error .shape

/-- An array instead of an object: it may start with a kind, and it is no modification. -/
def refuseArray (depth : Nat) (items : List Reading) (ending : Option Fault) : DocumentError :=
  match items with
  | [] =>
    match ending with
    | some f => .text f.read
    | none => .shape
  | kind :: rest =>
    match kind.asText with
    | .error e => e
    | .ok kind =>
      if (Change.readers.lookup kind).isNone then .shape
      else
        match Reading.itemValues depth rest with
        | .error f => .text f
        | .ok _ =>
          match ending with
          | some f => .text f.read
          | none => .shape

/-- The modification of a document that lies in so many containers less than are allowed. -/
def ofReading (depth : Nat) : Reading → Except DocumentError Modification
  | .object members ending => do
    let d ← Reading.foldMembers (Draft.step (depth - 1)) {} members
    let d ← Reading.atEnd ending d
    d.finish
  | .array items ending => .error (refuseArray (depth - 1) items ending)
  | r => .error r.misfit

/-- The modification of a text. -/
def ofText (s : String) : Except DocumentError Modification :=
  (Json.read s).decode (ofReading Json.depthLimit)

end Modification

end Multimodal
