import Multimodal.Transit.Basic
import Multimodal.Digest.Record
import Multimodal.Digest.Tree

/-! # The content of the transit layer

What two layers must have in common to count as equal: the feed checksums, the stops, the routes and
the patterns with their trips.  Membership lists do not count.

* `TransitLayer.records`: the content, record by record.
* `TransitLayer.digest`: its hash.
-/

namespace Multimodal

/-- The record of a feed. -/
def feedRecord (feed : FeedEntry) : Record := ⟨"feed", [.text feed.1, .long feed.2]⟩

/-- The record of a stop. -/
def Stop.record (s : Stop) : Record :=
  ⟨"stop", [.text s.id, .text s.name, .signed s.coordinate.latitudeUnits,
    .signed s.coordinate.longitudeUnits]⟩

/-- The record of a route. -/
def Route.record (r : Route) : Record := ⟨"route", [.text r.id, .text r.name, .word r.mode.code]⟩

/-- The fields of a trip. -/
def Trip.fields (t : Trip) : List Field := [.text t.id, .words t.arrivals, .words t.departures]

/-- The record of a pattern, its trips one after the other. -/
def Pattern.record (p : Pattern) : Record :=
  ⟨"pattern", .word p.route.toUInt32 :: .words (p.stops.map Nat.toUInt32) ::
    p.trips.flatMap Trip.fields⟩

namespace TransitLayer

/-- The records of the layer: feeds, stops, routes, patterns. -/
def records (t : TransitLayer) : List Record :=
  t.feeds.entries.map feedRecord ++ t.stops.toList.map Stop.record ++
    t.routes.toList.map Route.record ++ t.patterns.map Pattern.record

/-- The hash of the layer's content. -/
def digest (t : TransitLayer) : ContentHash := digestRoot (t.records.map Record.hash)

end TransitLayer

end Multimodal
