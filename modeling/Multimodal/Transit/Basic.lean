import Multimodal.FeedTable
import Multimodal.Geo.Coordinate
import Multimodal.MemberLists
import Multimodal.Network.Error

/-! # The transit layer

Scheduled service: stops, routes, and patterns with their trips, together with the checksums of the
feeds it was read from.  Which patterns belong to a stop or a route is derived and lags behind until
it is rebuilt.

* `TransitMode`, `Stop`, `Route`, `Pattern`, `TransitLayer`: the records.
* `TransitLayer.stopIndex?`, `TransitLayer.routeIndex?`: records by their ids.
* `addStop`, `addRoute`, `addPattern`, `openPattern`, `retainPatterns`, `retainPatternsFrom`: the
  changes.
* `TransitLayer.withMembership`: the layer with up-to-date membership lists.
-/

namespace Multimodal

/-! ## Records -/

/-- The kind of vehicle that serves a route. -/
inductive TransitMode
  | bus
  | tram
  | subway
  | rail
  | ferry
  deriving DecidableEq, Repr

namespace TransitMode

/-- The code that a mode is hashed as. -/
def code : TransitMode → UInt32
  | tram => 0
  | subway => 1
  | rail => 2
  | bus => 3
  | ferry => 4

/-- The name of a mode. -/
def name : TransitMode → String
  | bus => "bus"
  | tram => "tram"
  | subway => "subway"
  | rail => "rail"
  | ferry => "ferry"

/-- Every mode. -/
def all : List TransitMode := [bus, tram, subway, rail, ferry]

/-- The mode of a name. -/
def ofName? (name : String) : Option TransitMode := all.find? (·.name = name)

end TransitMode

/-- A place to board. -/
structure Stop where
  id : String
  name : String
  coordinate : Coordinate
  deriving DecidableEq, Repr

/-- A named line. -/
structure Route where
  id : String
  name : String
  mode : TransitMode
  deriving DecidableEq, Repr

/-- A sequence of stops with the trips that run along it for a route. -/
structure Pattern where
  route : RouteIndex
  stops : List StopIndex
  trips : List Trip
  deriving DecidableEq, Repr

/-- The patterns of every stop and of every route. -/
structure Membership where
  byStop : Array (List PatternIndex) := #[]
  byRoute : Array (List PatternIndex) := #[]
  deriving DecidableEq, Repr

/-- Scheduled service. -/
structure TransitLayer where
  feeds : FeedTable := {}
  stops : Array Stop := #[]
  routes : Array Route := #[]
  patterns : List Pattern := []
  membership : Membership := {}
  membershipStale : Bool := false
  deriving DecidableEq

namespace TransitLayer

/-! ## Looking up -/

/-- The position of the stop with this id. -/
def stopIndex? (t : TransitLayer) (id : String) : Option StopIndex :=
  t.stops.findIdx? (·.id = id)

/-- The position of the route with this id. -/
def routeIndex? (t : TransitLayer) (id : String) : Option RouteIndex :=
  t.routes.findIdx? (·.id = id)

/-- The number of trips of all patterns. -/
def tripCount (t : TransitLayer) : Nat := (t.patterns.flatMap (·.trips)).length

/-- The patterns that called at a stop when the membership lists were last built. -/
def patternsForStop (t : TransitLayer) (s : StopIndex) : List PatternIndex :=
  t.membership.byStop[s]?.getD []

/-- The patterns that a route had when the membership lists were last built. -/
def patternsForRoute (t : TransitLayer) (r : RouteIndex) : List PatternIndex :=
  t.membership.byRoute[r]?.getD []

/-! ## Adding -/

/-- Sets the checksum of a feed. -/
def withFeed (t : TransitLayer) (name : String) (checksum : UInt64) : TransitLayer :=
  { t with feeds := t.feeds.insert name checksum }

/-- Adds a stop under an id that is free and answers its position. -/
def addStop (stop : Stop) : Edit TransitLayer StopIndex := do
  let t ← get
  if (t.stopIndex? stop.id).isSome then throw (.duplicateStop stop.id)
  set { t with stops := t.stops.push stop, membershipStale := true }
  return t.stops.size

/-- Adds a route under an id that is free and answers its position. -/
def addRoute (route : Route) : Edit TransitLayer RouteIndex := do
  let t ← get
  if (t.routeIndex? route.id).isSome then throw (.duplicateRoute route.id)
  set { t with routes := t.routes.push route, membershipStale := true }
  return t.routes.size

/-- What is wrong with a pattern for this layer: an unknown route comes first, then the first unknown
stop, then the first trip whose times do not fit the stops. -/
def checkPattern (t : TransitLayer) (pattern : Pattern) : Except NetworkError Unit := do
  if t.routes.size ≤ pattern.route then throw (.routeNotFound pattern.route)
  if let some missing := pattern.stops.find? (t.stops.size ≤ ·) then
    throw (.stopNotFound missing)
  pattern.trips.forM (·.validate pattern.stops.length)

/-- Adds a pattern and answers its position. -/
def addPattern (pattern : Pattern) : Edit TransitLayer PatternIndex := do
  let t ← get
  match t.checkPattern pattern with
  | .error e => throw e
  | .ok () =>
    set { t with patterns := t.patterns ++ [pattern], membershipStale := true }
    return t.patterns.length

/-! ## Editing patterns -/

/-- The members that pass a test which remembers something of the members before. -/
def retainFrom {σ α : Type} (keep : σ → α → Bool × σ) : σ → List α → List α
  | _, [] => []
  | s, a :: rest =>
    if (keep s a).1 then a :: retainFrom keep (keep s a).2 rest
    else retainFrom keep (keep s a).2 rest

/-- Announces that a pattern will be edited and answers it.  The membership lists count as stale from
here on, also when there is no such pattern. -/
def openPattern (i : PatternIndex) : Edit TransitLayer Pattern := do
  modify fun t => { t with membershipStale := true }
  match (← get).patterns[i]? with
  | some pattern => return pattern
  | none => throw (.patternNotFound i)

/-- The layer with another pattern in place of one. -/
def replacePattern (t : TransitLayer) (i : PatternIndex) (pattern : Pattern) : TransitLayer :=
  { t with patterns := t.patterns.set i pattern }

/-- Edits a pattern without checking what becomes of it. -/
def modifyPattern (i : PatternIndex) (f : Pattern → Pattern) : Edit TransitLayer Unit := do
  let pattern ← openPattern i
  modify (·.replacePattern i (f pattern))

/-- The layer with the patterns that pass a test; their positions move up. -/
def retainPatterns (t : TransitLayer) (keep : Pattern → Bool) : TransitLayer :=
  { t with patterns := t.patterns.filter keep, membershipStale := true }

/-- The same with a test that remembers something of the patterns before. -/
def retainPatternsFrom {σ : Type} (t : TransitLayer) (keep : σ → Pattern → Bool × σ) (s : σ) :
    TransitLayer :=
  { t with patterns := retainFrom keep s t.patterns, membershipStale := true }

/-! ## Membership lists -/

/-- The layer with membership lists built from the patterns. -/
def withMembership (t : TransitLayer) : TransitLayer :=
  { t with
    membership :=
      { byStop := memberLists t.stops.size
          (t.patterns.zipIdx.flatMap fun (pattern, i) => pattern.stops.map fun s => (s, i))
        byRoute := memberLists t.routes.size
          (t.patterns.zipIdx.map fun (pattern, i) => (pattern.route, i)) }
    membershipStale := false }

end TransitLayer

end Multimodal
