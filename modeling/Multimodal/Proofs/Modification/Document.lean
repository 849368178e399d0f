import Mathlib
import Multimodal.Modification.Document
import Multimodal.Proofs.Json.Records

/-! # Modifications from their documents

A modification that nothing was found for yet is the one its document describes.

* `Modification.Unresolved`: nothing was found and nothing recorded.
* `Change.floats`: the doubles of a change.
* `Modification.ofReading_toJson`: the modification of a document.
-/

namespace Multimodal

/-! ## Parameters -/

theorem legibleMembers_floatOption {depth : Nat} {x : Option Float} (name : String)
    (h : ∀ y ∈ x.toList, Json.ReadsBack y) :
    Json.LegibleMembers depth (Json.optional name .ofFloat x) :=
  Json.legibleMembers_optional name fun y hy => Json.legible_ofFloat (h y (Option.mem_toList.2 hy))

namespace Envelope

/-- The sides of an envelope. -/
def sides (e : Envelope) : List Float :=
  [e.minLatitude, e.minLongitude, e.maxLatitude, e.maxLongitude]

theorem restores : Json.Restores Envelope.toJson ofJson? where
  restored e := by simp [toJson, ofJson?, Json.field, Json.ofFloat, Json.asFloat?, Json.Number.toFloat]
  notNull _ := Json.noConfusion

theorem legible {e : Envelope} (h : ∀ x ∈ e.sides, Json.ReadsBack x) (depth : Nat) :
    e.toJson.Legible (depth + 1) := by
  simp only [sides, List.forall_mem_cons] at h
  obtain ⟨hsouth, hwest, hnorth, heast, -⟩ := h
  refine .object ?_
  simp only [List.forall_mem_cons]
  exact ⟨Json.legible_ofFloat hsouth, Json.legible_ofFloat hwest, Json.legible_ofFloat hnorth,
    Json.legible_ofFloat heast, Json.legibleMembers_nil depth⟩

end Envelope

theorem Permissions.restores : Json.Restores Permissions.toJson ofJson? where
  restored p := by
    have hlt : p.bits.toNat < 256 := p.bits.toNat_lt
    have hread : (toJson p).asNatural? 255 = some p.bits.toNat :=
      Json.asNatural?_ofNat (by omega) (Nat.lt_trans hlt (by decide))
    simp [ofJson?, hread]
  notNull _ := Json.noConfusion

theorem Seconds.restores : Json.Restores Seconds.toJson Seconds.ofJson? where
  restored t := by
    have hlt : t.toNat < UInt32.size := t.toNat_lt
    have hread : (Seconds.toJson t).asNatural? (UInt32.size - 1) = some t.toNat :=
      Json.asNatural?_ofNat (by omega) (Nat.lt_trans hlt (by decide))
    rw [Seconds.ofJson?, hread, Option.map_some, Nat.toUInt32, UInt32.ofNat_toNat]
  notNull _ := Json.noConfusion

theorem TransitMode.restores : Json.Restores TransitMode.toJson ofJson? where
  restored m := by cases m <;> rfl
  notNull _ := Json.noConfusion

theorem restores_point : Json.Restores pointToJson pointOfJson? :=
  ⟨fun _ => rfl, fun _ => Json.noConfusion⟩

theorem legible_point {p : Float × Float} (h : ∀ x ∈ [p.1, p.2], Json.ReadsBack x) (depth : Nat) :
    (pointToJson p).Legible (depth + 1) := by
  simp only [List.forall_mem_cons] at h
  obtain ⟨hlatitude, hlongitude, -⟩ := h
  refine .array ?_
  simp only [List.forall_mem_cons]
  exact ⟨Json.legible_ofFloat hlatitude, Json.legible_ofFloat hlongitude,
    fun _ hv => absurd hv List.not_mem_nil⟩

theorem restores_texts : Json.Restores textsToJson textsOfJson? := Json.restores_text.list

theorem legible_texts (ss : List String) (depth : Nat) : (textsToJson ss).Legible (depth + 1) :=
  Json.legible_ofList fun s _ => .string s

namespace StopSpec

/-- The coordinates that a stop is given. -/
def coordinates (s : StopSpec) : List Float := s.latitude.toList ++ s.longitude.toList

theorem restores : Json.Restores StopSpec.toJson ofJson? where
  restored s := by
    unfold toJson
    generalize hmembers : (("id", Json.string s.id) :: Json.optional "name" .string s.name ++
      Json.optional "lat" .ofFloat s.latitude ++ Json.optional "lon" .ofFloat s.longitude) = members
    have hid : Json.field "id" Json.asText? members = some s.id :=
      Json.field_eq Json.restores_text (by simp [← hmembers])
    have hname : Json.fieldOption "name" Json.asText? members = some s.name :=
      Json.fieldOption_eq Json.restores_text (by simp [← hmembers])
    have hlatitude : Json.fieldOption "lat" Json.asFloat? members = some s.latitude :=
      Json.fieldOption_eq Json.restores_float (by simp [← hmembers])
    have hlongitude : Json.fieldOption "lon" Json.asFloat? members = some s.longitude :=
      Json.fieldOption_eq Json.restores_float (by simp [← hmembers])
    simp [ofJson?, hid, hname, hlatitude, hlongitude]
  notNull _ := Json.noConfusion

theorem legible {s : StopSpec} (h : ∀ x ∈ s.coordinates, Json.ReadsBack x) (depth : Nat) :
    s.toJson.Legible (depth + 1) := by
  obtain ⟨hlatitude, hlongitude⟩ := List.forall_mem_append.1 h
  have hname : Json.LegibleMembers depth (Json.optional "name" .string s.name) :=
    Json.legibleMembers_optional "name" fun name _ => .string name
  exact .object (Json.legibleMembers_append.2
    ⟨Json.legibleMembers_cons.2 ⟨.string s.id, Json.legibleMembers_append.2
      ⟨hname, legibleMembers_floatOption "lat" hlatitude⟩⟩,
    legibleMembers_floatOption "lon" hlongitude⟩)

end StopSpec

/-! ## The eight kinds -/

namespace Change

/-- Nothing was found for the change. -/
def Unresolved : Change → Prop
  | modifyStreets m => m.found = []
  | removeStreets m => m.found = []
  | addStreets m => m.endPoints = none
  | removeTrips m => m.foundRoutes = []
  | removeStops m => m.foundRoutes = [] ∧ m.foundStops = []
  | adjustSpeed m => m.foundRoutes = []
  | adjustDwellTime m => m.foundRoutes = [] ∧ m.foundStops = []
  | addTrips _ => True

instance : DecidablePred Unresolved
  | modifyStreets _ | removeStreets _ | removeTrips _ | adjustSpeed _ =>
    inferInstanceAs (Decidable (_ = []))
  | addStreets _ => inferInstanceAs (Decidable (_ = none))
  | removeStops _ | adjustDwellTime _ => inferInstanceAs (Decidable (_ = [] ∧ _ = []))
  | addTrips _ => inferInstanceAs (Decidable True)

/-- The doubles among the parameters of a change. -/
def floats : Change → List Float
  | modifyStreets m => m.envelope.sides ++ m.speedFactor.toList
  | removeStreets m => m.envelope.sides
  | addStreets m => m.coordinates.flatMap (fun p => [p.1, p.2]) ++ [m.speedKph]
  | removeTrips _ | removeStops _ => []
  | adjustSpeed m => [m.scale]
  | adjustDwellTime m => m.scale.toList
  | addTrips m => m.stops.flatMap StopSpec.coordinates

theorem legibleMembers_members {c : Change} (h : ∀ x ∈ c.floats, Json.ReadsBack x) :
    Json.LegibleMembers 2 c.members := by
  cases c with
  | modifyStreets m =>
    obtain ⟨hsides, hfactor⟩ := List.forall_mem_append.1 h
    simp only [members, Json.legibleMembers_cons, Json.legibleMembers_append]
    exact ⟨⟨Envelope.legible hsides 1, legibleMembers_floatOption "speedFactor" hfactor⟩,
      Json.legibleMembers_optional "permissions" fun p _ => Json.legible_ofNat 2 p.bits.toNat⟩
  | removeStreets m =>
    exact Json.legibleMembers_cons.2 ⟨Envelope.legible h 1, Json.legibleMembers_nil 2⟩
  | addStreets m =>
    obtain ⟨hpoints, hspeed⟩ := List.forall_mem_append.1 h
    have hcoordinates : (Json.ofList pointToJson m.coordinates).Legible 2 := Json.legible_ofList
      fun p hp => legible_point (fun x hx => hpoints x (List.mem_flatMap.2 ⟨p, hp, hx⟩)) 0
    simp only [members, Json.legibleMembers_cons]
    exact ⟨hcoordinates, Json.legible_ofFloat (hspeed _ List.mem_cons_self),
      Json.legible_ofNat 2 m.permissions.bits.toNat, Json.legibleMembers_nil 2⟩
  | removeTrips m =>
    simp only [members, Json.legibleMembers_cons]
    exact ⟨legible_texts m.routes 1, legible_texts m.trips 1, Json.legibleMembers_nil 2⟩
  | removeStops m =>
    simp only [members, Json.legibleMembers_cons]
    exact ⟨legible_texts m.routes 1, legible_texts m.stops 1, Json.legibleMembers_nil 2⟩
  | adjustSpeed m =>
    simp only [members, Json.legibleMembers_cons]
    exact ⟨legible_texts m.routes 1, Json.legible_ofFloat (h _ List.mem_cons_self),
      Json.legibleMembers_nil 2⟩
  | adjustDwellTime m =>
    simp only [members, Json.legibleMembers_cons, Json.legibleMembers_append]
    exact ⟨legible_texts m.routes 1, legible_texts m.stops 1,
      Json.legibleMembers_optional "dwellSecs" fun t _ => Json.legible_ofNat 2 t.toNat,
      legibleMembers_floatOption "scale" h⟩
  | addTrips m =>
    have hstops : (Json.ofList StopSpec.toJson m.stops).Legible 2 := Json.legible_ofList
      fun s hs => StopSpec.legible (fun x hx => h x (List.mem_flatMap.2 ⟨s, hs, hx⟩)) 0
    have htimes : ∀ times : List Seconds, (Json.ofList Seconds.toJson times).Legible 2 :=
      fun _ => Json.legible_ofList fun t _ => Json.legible_ofNat 1 t.toNat
    simp only [members, Json.legibleMembers_cons]
    exact ⟨.string m.routeId, .string m.routeName, .string m.mode.name, hstops, htimes m.hops,
      htimes m.dwells, htimes m.departures, Json.legibleMembers_nil 2⟩

/-- The reader of a kind gives back a change from its parameters, also with a comment behind them. -/
theorem read_members {c : Change} (hc : c.Unresolved) (comment : Option String) :
    ∃ reader, readers.lookup c.typeName = some reader ∧
      reader (c.members ++ Json.optional "comment" .string comment) = some c := by
  generalize hms : c.members ++ Json.optional "comment" .string comment = ms
  cases c with
  | modifyStreets m =>
    obtain ⟨envelope, speedFactor, permissions, found⟩ := m
    obtain rfl : found = [] := hc
    have henvelope : Json.field "envelope" Envelope.ofJson? ms = some envelope :=
      Json.field_eq Envelope.restores (by simp [← hms, members])
    have hfactor : Json.fieldOption "speedFactor" Json.asFloat? ms = some speedFactor :=
      Json.fieldOption_eq Json.restores_float (by simp [← hms, members])
    have hpermissions : Json.fieldOption "permissions" Permissions.ofJson? ms = some permissions :=
      Json.fieldOption_eq Permissions.restores (by simp [← hms, members])
    exact ⟨_, rfl, by simp [henvelope, hfactor, hpermissions]⟩
  | removeStreets m =>
    obtain ⟨envelope, found⟩ := m
    obtain rfl : found = [] := hc
    have henvelope : Json.field "envelope" Envelope.ofJson? ms = some envelope :=
      Json.field_eq Envelope.restores (by simp [← hms, members])
    exact ⟨_, rfl, by simp [henvelope]⟩
  | addStreets m =>
    obtain ⟨coordinates, speedKph, permissions, endPoints⟩ := m
    obtain rfl : endPoints = none := hc
    have hcoordinates : Json.field "coordinates" (Json.asList? pointOfJson?) ms = some coordinates :=
      Json.field_eq restores_point.list (by simp [← hms, members])
    have hspeed : Json.field "speedKph" Json.asFloat? ms = some speedKph :=
      Json.field_eq Json.restores_float (by simp [← hms, members])
    have hpermissions : Json.fieldOr "permissions" .all Permissions.ofJson? ms = some permissions :=
      Json.fieldOr_eq Permissions.restores (by simp [← hms, members])
    exact ⟨_, rfl, by simp [hcoordinates, hspeed, hpermissions]⟩
  | removeTrips m =>
    obtain ⟨routes, trips, found⟩ := m
    obtain rfl : found = [] := hc
    have hroutes : Json.fieldOr "routes" [] textsOfJson? ms = some routes :=
      Json.fieldOr_eq restores_texts (by simp [← hms, members])
    have htrips : Json.fieldOr "trips" [] textsOfJson? ms = some trips :=
      Json.fieldOr_eq restores_texts (by simp [← hms, members])
    exact ⟨_, rfl, by simp [hroutes, htrips]⟩
  | removeStops m =>
    obtain ⟨routes, stops, foundRoutes, foundStops⟩ := m
    obtain ⟨rfl, rfl⟩ : foundRoutes = [] ∧ foundStops = [] := hc
    have hroutes : Json.fieldOr "routes" [] textsOfJson? ms = some routes :=
      Json.fieldOr_eq restores_texts (by simp [← hms, members])
    have hstops : Json.field "stops" textsOfJson? ms = some stops :=
      Json.field_eq restores_texts (by simp [← hms, members])
    exact ⟨_, rfl, by simp [hroutes, hstops]⟩
  | adjustSpeed m =>
    obtain ⟨routes, scale, found⟩ := m
    obtain rfl : found = [] := hc
    have hroutes : Json.field "routes" textsOfJson? ms = some routes :=
      Json.field_eq restores_texts (by simp [← hms, members])
    have hscale : Json.field "scale" Json.asFloat? ms = some scale :=
      Json.field_eq Json.restores_float (by simp [← hms, members])
    exact ⟨_, rfl, by simp [hroutes, hscale]⟩
  | adjustDwellTime m =>
    obtain ⟨routes, stops, dwell, scale, foundRoutes, foundStops⟩ := m
    obtain ⟨rfl, rfl⟩ : foundRoutes = [] ∧ foundStops = [] := hc
    have hroutes : Json.field "routes" textsOfJson? ms = some routes :=
      Json.field_eq restores_texts (by simp [← hms, members])
    have hstops : Json.fieldOr "stops" [] textsOfJson? ms = some stops :=
      Json.fieldOr_eq restores_texts (by simp [← hms, members])
    have hdwell : Json.fieldOption "dwellSecs" Seconds.ofJson? ms = some dwell :=
      Json.fieldOption_eq Seconds.restores (by simp [← hms, members])
    have hscale : Json.fieldOption "scale" Json.asFloat? ms = some scale :=
      Json.fieldOption_eq Json.restores_float (by simp [← hms, members])
    exact ⟨_, rfl, by simp [hroutes, hstops, hdwell, hscale]⟩
  | addTrips m =>
    obtain ⟨routeId, routeName, mode, stops, hops, dwells, departures⟩ := m
    have hid : Json.field "routeId" Json.asText? ms = some routeId :=
      Json.field_eq Json.restores_text (by simp [← hms, members])
    have hname : Json.fieldOr "routeName" "" Json.asText? ms = some routeName :=
      Json.fieldOr_eq Json.restores_text (by simp [← hms, members])
    have hmode : Json.field "mode" TransitMode.ofJson? ms = some mode :=
      Json.field_eq TransitMode.restores (by simp [← hms, members])
    have hstops : Json.field "stops" (Json.asList? StopSpec.ofJson?) ms = some stops :=
      Json.field_eq StopSpec.restores.list (by simp [← hms, members])
    have hhops : Json.field "hopTimes" (Json.asList? Seconds.ofJson?) ms = some hops :=
      Json.field_eq Seconds.restores.list (by simp [← hms, members])
    have hdwells : Json.field "dwellTimes" (Json.asList? Seconds.ofJson?) ms = some dwells :=
      Json.field_eq Seconds.restores.list (by simp [← hms, members])
    have hdepartures : Json.field "departures" (Json.asList? Seconds.ofJson?) ms = some departures :=
      Json.field_eq Seconds.restores.list (by simp [← hms, members])
    exact ⟨_, rfl, by simp [hid, hname, hmode, hstops, hhops, hdwells, hdepartures]⟩

theorem named_type_members (c : Change) : Json.named "type" c.members = [] := by
  cases c <;> simp [members]

theorem named_comment_members (c : Change) : Json.named "comment" c.members = [] := by
  cases c <;> simp [members]

end Change

/-! ## Modifications -/

namespace Modification

/-- Nothing was found for the modification and nothing was recorded. -/
def Unresolved (m : Modification) : Prop := m.change.Unresolved ∧ m.diagnostics.warnings = []

instance : DecidablePred Unresolved := fun m =>
  inferInstanceAs (Decidable (m.change.Unresolved ∧ m.diagnostics.warnings = []))

theorem legibleMembers_rest {m : Modification} (h : ∀ x ∈ m.change.floats, Json.ReadsBack x) :
    Json.LegibleMembers 2 (m.change.members ++ m.diagnostics.members) :=
  Json.legibleMembers_append.2 ⟨Change.legibleMembers_members h,
    Json.legibleMembers_optional "comment" fun comment _ => .string comment⟩

theorem legible {m : Modification} (h : ∀ x ∈ m.change.floats, Json.ReadsBack x) :
    m.toJson.Legible 3 :=
  .object (Json.legibleMembers_cons.2 ⟨.string _, legibleMembers_rest h⟩)

/-- Once the kind is known, members are taken as they come. -/
theorem foldMembers_step {depth : Nat} {members : List (String × Json)} (d : Draft)
    (hkeys : Json.named "type" members = []) (hmembers : Json.LegibleMembers depth members) :
    Reading.foldMembers (Draft.step depth) d (Json.memberReadings members) =
      .ok { d with members := d.members ++ members } := by
  induction members generalizing d with
  | nil => simp [Json.memberReadings, Reading.foldMembers]
  | cons m rest ih =>
    obtain ⟨key, v⟩ := m
    obtain ⟨hv, hrest⟩ := Json.legibleMembers_cons.1 hmembers
    rw [Json.named_cons] at hkeys
    split at hkeys
    case isTrue => cases hkeys
    case isFalse hkey =>
      have hstep : Draft.step depth d key v.reading =
          .ok { d with members := d.members ++ [(key, v)] } := by
        simp [Draft.step, hkey, Json.value_reading hv, Reading.decoded, bind, Except.bind,
          Except.mapError]
      rw [Reading.foldMembers_cons rest hstep, ih _ hkeys hrest]
      simp

/-- A modification is read back from the tree of its document. -/
theorem ofReading_toJson {m : Modification} (hm : m.Unresolved)
    (h : ∀ x ∈ m.change.floats, Json.ReadsBack x) {depth : Nat} (hdepth : 3 ≤ depth) :
    ofReading depth m.toJson.reading = .ok m := by
  have hrest : Json.LegibleMembers (depth - 1) (m.change.members ++ m.diagnostics.members) :=
    fun member hmember => (legibleMembers_rest h member hmember).mono (by omega)
  obtain ⟨change, comment, warnings⟩ := m
  obtain ⟨hchange, rfl⟩ : change.Unresolved ∧ warnings = [] := hm
  obtain ⟨reader, hlookup, hreader⟩ := Change.read_members hchange comment
  have hkind : Draft.step (depth - 1) {} "type" (Json.string change.typeName).reading =
      .ok { reader? := some reader } := by
    simp [Draft.step, Json.reading, Reading.asText, hlookup, bind, Except.bind]
  have hkeys : Json.named "type" (change.members ++ Json.optional "comment" .string comment) = [] := by
    simp [Change.named_type_members]
  have hcomment : Json.fieldOption "comment" Json.asText?
      (change.members ++ Json.optional "comment" .string comment) = some comment :=
    Json.fieldOption_eq Json.restores_text (by simp [Change.named_comment_members])
  have hfold := (Reading.foldMembers_cons _ hkind).trans
    (foldMembers_step { reader? := some reader } hkeys hrest)
  refine bind_eq_ok.2 ⟨_, hfold, bind_eq_ok.2 ⟨_, rfl, ?_⟩⟩
  simp [Draft.finish, hreader, hcomment]

end Modification

end Multimodal
