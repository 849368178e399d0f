import Multimodal.Network.Basic
import Multimodal.Proofs.Digest.Tree
import Multimodal.Sample

/-! # The checksum identifies the content

The checksum of a network follows from its content, and networks with different content have
different checksums unless two different byte strings collide.

* `Content`, `Network.content`: what the checksum stands for.
* `recordSorts`, `Record.Regular`: the sorts of a record's fields follow from its kind.
* `Network.hashInputs`: every byte string that is hashed for the checksum.
* `Network.checksum_identifies_content`: equal content gives equal checksums, and conversely.
-/

namespace Multimodal

/-! ## Regular records -/

/-- The sorts of the fields of a record of some kind; only patterns hold trips. -/
def recordSorts : String → Nat → List FieldSort
  | "street-vertex", _ => [.signed, .signed]
  | "street-edge", _ => [.word, .word, .word, .word, .word]
  | "feed", _ => [.text, .long]
  | "stop", _ => [.text, .text, .signed, .signed]
  | "route", _ => [.text, .text, .word]
  | "pattern", trips => .word :: .words :: (List.replicate trips [.text, .words, .words]).flatten
  | _, _ => []

/-- The sorts of a record's fields follow from its kind and a number of trips. -/
def Record.Regular (r : Record) : Prop :=
  ∃ trips, r.fields.map Field.sort = recordSorts r.kind trips

theorem flatten_replicate_of_le {α : Type} (xs : List α) {k n : Nat} (h : k ≤ n) :
    (List.replicate k xs).flatten <+: (List.replicate n xs).flatten := by
  obtain ⟨d, rfl⟩ := Nat.exists_eq_add_of_le h
  rw [List.replicate_add, List.flatten_append]
  exact List.prefix_append _ _

/-- Records of one kind have the same sorts of fields as far as both go. -/
theorem comparable_recordSorts (kind : String) (k n : Nat) :
    Comparable (recordSorts kind k) (recordSorts kind n) := by
  unfold recordSorts
  split
  case h_6 =>
    rcases Nat.le_total k n with h | h
    · exact .inl (List.prefix_append_right_inj [_, _] |>.2 (flatten_replicate_of_le _ h))
    · exact .inr (List.prefix_append_right_inj [_, _] |>.2 (flatten_replicate_of_le _ h))
  all_goals exact Comparable.refl _

theorem regular_vertexRecord (c : Coordinate) : (vertexRecord c).Regular := ⟨0, rfl⟩

theorem regular_edgeRecord (e : StreetEdge) : e.record.Regular := ⟨0, rfl⟩

theorem regular_feedRecord (feed : FeedEntry) : (feedRecord feed).Regular := ⟨0, rfl⟩

theorem regular_stopRecord (s : Stop) : s.record.Regular := ⟨0, rfl⟩

theorem regular_routeRecord (r : Route) : r.record.Regular := ⟨0, rfl⟩

theorem regular_patternRecord (p : Pattern) : p.record.Regular := by
  refine ⟨p.trips.length, ?_⟩
  have htrips : ∀ trips : List Trip, (trips.flatMap Trip.fields).map Field.sort =
      (List.replicate trips.length [.text, .words, .words]).flatten := by
    intro trips
    induction trips with
    | nil => rfl
    | cons trip trips ih =>
      rw [List.flatMap_cons, List.map_append, ih, List.length_cons, List.replicate_succ,
        List.flatten_cons]
      rfl
  show .word :: .words :: (p.trips.flatMap Trip.fields).map Field.sort = _
  rw [htrips]
  rfl

theorem records_inj {rs ss : List Record} (hrs : ∀ r ∈ rs, r.Fits ∧ r.Regular)
    (hss : ∀ s ∈ ss, s.Fits ∧ s.Regular) (h : rs.map Record.hash = ss.map Record.hash) :
    rs = ss ∨ Collide (rs.map Record.bytes) (ss.map Record.bytes) := by
  induction rs generalizing ss with
  | nil =>
    cases ss with
    | nil => exact .inl rfl
    | cons s ss => cases h
  | cons r rs ih =>
    cases ss with
    | nil => cases h
    | cons s ss =>
      obtain ⟨hfirst, hrest⟩ := List.cons.inj h
      obtain ⟨hr, k, hk⟩ := hrs r List.mem_cons_self
      obtain ⟨hs, n, hn⟩ := hss s List.mem_cons_self
      rcases ofBytes_inj hfirst with hbytes | hcollide
      · have hsame : r = s := by
          refine Record.bytes_inj hr hs (fun hkind => ?_) hbytes
          rw [hk, hn, hkind]
          exact comparable_recordSorts s.kind k n
        rcases ih (fun x hx => hrs x (List.mem_cons_of_mem r hx))
          (fun x hx => hss x (List.mem_cons_of_mem s hx)) hrest with hothers | hcollide
        · exact .inl (by rw [hsame, hothers])
        · exact .inr (hcollide.mono (List.subset_cons_self _ _) (List.subset_cons_self _ _))
      · exact .inr (hcollide.of_mem List.mem_cons_self List.mem_cons_self)

/-- The number of some records and the length of each can be written. -/
structure RecordsFit (rs : List Record) : Prop where
  count : rs.length < 2 ^ 64
  fits : ∀ r ∈ rs, r.Fits

/-- Every byte string that is hashed for the digest of some records. -/
def recordInputs (rs : List Record) : List (List UInt8) :=
  rs.map Record.bytes ++ digestInputs (rs.map Record.hash)

/-- Regular records with the same digest are equal, or two different byte strings that were hashed
for the digests have the same hash. -/
theorem records_of_digest {rs ss : List Record} (hrs : RecordsFit rs) (hss : RecordsFit ss)
    (hregular : ∀ r ∈ rs, r.Regular) (hregular' : ∀ s ∈ ss, s.Regular)
    (h : digestRoot (rs.map Record.hash) = digestRoot (ss.map Record.hash)) :
    rs = ss ∨ Collide (recordInputs rs) (recordInputs ss) := by
  have hcount : (rs.map Record.hash).length < 2 ^ 64 := by
    rw [List.length_map]
    exact hrs.count
  have hcount' : (ss.map Record.hash).length < 2 ^ 64 := by
    rw [List.length_map]
    exact hss.count
  rcases digestRoot_inj hcount hcount' h with hleaves | hcollide
  · refine (records_inj (fun r hr => ⟨hrs.fits r hr, hregular r hr⟩)
      (fun s hs => ⟨hss.fits s hs, hregular' s hs⟩) hleaves).imp_right fun hcollide => ?_
    exact hcollide.mono (List.subset_append_left _ _) (List.subset_append_left _ _)
  · exact .inr (hcollide.mono (List.subset_append_right _ _) (List.subset_append_right _ _))

theorem filter_kind {α : Type} (f : α → Record) (kind : String) (hf : ∀ a, (f a).kind = kind)
    (xs : List α) (wanted : String) :
    (xs.map f).filter (fun r => r.kind = wanted) = if kind = wanted then xs.map f else [] := by
  by_cases hkind : kind = wanted
  · rw [if_pos hkind, List.filter_eq_self]
    intro r hr
    obtain ⟨a, -, rfl⟩ := List.mem_map.1 hr
    exact decide_eq_true ((hf a).trans hkind)
  · rw [if_neg hkind, List.filter_eq_nil_iff]
    intro r hr
    obtain ⟨a, -, rfl⟩ := List.mem_map.1 hr
    rw [hf a]
    simpa using hkind

theorem map_inj_of_mem {α β : Type} {f : α → β} {xs ys : List α}
    (hf : ∀ x ∈ xs, ∀ y ∈ ys, f x = f y → x = y) (h : xs.map f = ys.map f) : xs = ys := by
  induction xs generalizing ys with
  | nil => exact (List.map_eq_nil_iff.1 h.symm).symm
  | cons x xs ih =>
    cases ys with
    | nil => cases h
    | cons y ys =>
      obtain ⟨hfirst, hrest⟩ := List.cons.inj h
      rw [hf x List.mem_cons_self y List.mem_cons_self hfirst,
        ih (fun a ha b hb => hf a (List.mem_cons_of_mem x ha) b (List.mem_cons_of_mem y hb)) hrest]

/-! ## Streets -/

theorem toUInt32_inj {a b : Nat} (ha : a < 2 ^ 32) (hb : b < 2 ^ 32)
    (h : a.toUInt32 = b.toUInt32) : a = b := by
  have hnat : (UInt32.ofNat a).toNat = (UInt32.ofNat b).toNat := congrArg UInt32.toNat h
  rwa [UInt32.toNat_ofNat_of_lt' ha, UInt32.toNat_ofNat_of_lt' hb] at hnat

theorem vertexRecord_inj {c d : Coordinate} (h : vertexRecord c = vertexRecord d) : c = d := by
  simp only [vertexRecord, Record.mk.injEq, List.cons.injEq, Field.signed.injEq, and_true,
    true_and] at h
  obtain ⟨hlatitude, hlongitude⟩ := h
  cases c
  cases d
  cases hlatitude
  cases hlongitude
  rfl

theorem edgeRecord_inj {e f : StreetEdge} (he : e.origin < 2 ^ 32 ∧ e.target < 2 ^ 32)
    (hf : f.origin < 2 ^ 32 ∧ f.target < 2 ^ 32) (hremoved : e.removed = f.removed)
    (h : e.record = f.record) : e = f := by
  simp only [StreetEdge.record, Record.mk.injEq, List.cons.injEq, Field.word.injEq, and_true,
    true_and] at h
  obtain ⟨horigin, htarget, hlength, hspeed, hbits⟩ := h
  have horigin' := toUInt32_inj he.1 hf.1 horigin
  have htarget' := toUInt32_inj he.2 hf.2 htarget
  have hspeed' : e.speed = f.speed := by
    refine UInt16.toNat_inj.1 ?_
    have hnat := congrArg UInt32.toNat hspeed
    rwa [UInt16.toNat_toUInt32, UInt16.toNat_toUInt32] at hnat
  have hbits' : e.permissions = f.permissions := by
    refine congrArg Permissions.mk (UInt8.toNat_inj.1 ?_)
    have hnat := congrArg UInt32.toNat hbits
    rwa [UInt8.toNat_toUInt32, UInt8.toNat_toUInt32] at hnat
  obtain ⟨origin, target, length, speed, permissions, removed⟩ := e
  obtain ⟨origin', target', length', speed', permissions', removed'⟩ := f
  cases horigin'
  cases htarget'
  cases hlength
  cases hspeed'
  cases hbits'
  cases hremoved
  rfl

namespace StreetLayer

/-- The edges that are not removed, in order. -/
def keptEdges (s : StreetLayer) : List StreetEdge := s.edges.toList.filter (!·.removed)

theorem liveEdges_eq_keptEdges (s : StreetLayer) : s.liveEdges.map (·.2) = s.keptEdges := by
  have hshift : ∀ (edges : List StreetEdge) (i : Nat),
      ((edges.zipIdx i).filterMap fun x =>
        if x.1.removed then none else some (x.2, x.1)).map (·.2) =
      edges.filter (!·.removed) := by
    intro edges
    induction edges with
    | nil => exact fun _ => rfl
    | cons edge edges ih =>
      intro i
      rw [List.zipIdx_cons, List.filterMap_cons, List.filter_cons]
      by_cases hremoved : edge.removed
      · simp only [hremoved, if_true, ih (i + 1), Bool.not_true, Bool.false_eq_true, if_false]
      · simp only [hremoved, Bool.false_eq_true, if_false, List.map_cons, ih (i + 1),
          Bool.not_false, if_true]
  exact hshift s.edges.toList 0

/-- The counts and lengths that are written fit into 64 bits, and the positions into 32. -/
structure InRange (s : StreetLayer) : Prop where
  records : RecordsFit s.records
  positions : ∀ e ∈ s.keptEdges, e.origin < 2 ^ 32 ∧ e.target < 2 ^ 32

theorem records_eq (s : StreetLayer) :
    s.records = s.vertices.toList.map vertexRecord ++ s.keptEdges.map StreetEdge.record := by
  unfold records
  rw [← liveEdges_eq_keptEdges, List.map_map]
  rfl

theorem regular_records (s : StreetLayer) : ∀ r ∈ s.records, r.Regular := by
  intro r hr
  rw [records_eq] at hr
  rcases List.mem_append.1 hr with hr | hr
  · obtain ⟨c, -, rfl⟩ := List.mem_map.1 hr
    exact regular_vertexRecord c
  · obtain ⟨e, -, rfl⟩ := List.mem_map.1 hr
    exact regular_edgeRecord e

theorem removed_of_kept {s : StreetLayer} {e : StreetEdge} (h : e ∈ s.keptEdges) :
    e.removed = false := by
  simpa using (List.mem_filter.1 h).2

/-- The records of a wanted kind. -/
theorem filter_records (s : StreetLayer) (wanted : String) :
    s.records.filter (fun r => r.kind = wanted) =
      (if "street-vertex" = wanted then s.vertices.toList.map vertexRecord else []) ++
        if "street-edge" = wanted then s.keptEdges.map StreetEdge.record else [] := by
  rw [records_eq, List.filter_append,
    filter_kind vertexRecord "street-vertex" (fun _ => rfl),
    filter_kind StreetEdge.record "street-edge" (fun _ => rfl)]

theorem content_of_records {s t : StreetLayer} (hs : s.InRange) (ht : t.InRange)
    (h : s.records = t.records) : s.vertices = t.vertices ∧ s.keptEdges = t.keptEdges := by
  have hkind : ∀ wanted, s.records.filter (fun r => r.kind = wanted) =
      t.records.filter (fun r => r.kind = wanted) := fun wanted => by rw [h]
  simp only [filter_records] at hkind
  have hvertices : s.vertices.toList.map vertexRecord = t.vertices.toList.map vertexRecord := by
    simpa using hkind "street-vertex"
  have hedges : s.keptEdges.map StreetEdge.record = t.keptEdges.map StreetEdge.record := by
    simpa using hkind "street-edge"
  constructor
  · exact Array.toList_inj.1 (map_inj_of_mem (fun _ _ _ _ => vertexRecord_inj) hvertices)
  · refine map_inj_of_mem (fun e he f hf => ?_) hedges
    refine edgeRecord_inj (hs.positions e he) (ht.positions f hf) ?_
    rw [removed_of_kept he, removed_of_kept hf]

/-- Street layers with the same digest have the same content or collide. -/
theorem digest_inj {s t : StreetLayer} (hs : s.InRange) (ht : t.InRange)
    (h : s.digest = t.digest) :
    (s.vertices = t.vertices ∧ s.keptEdges = t.keptEdges) ∨
      Collide (recordInputs s.records) (recordInputs t.records) :=
  (records_of_digest hs.records ht.records s.regular_records t.regular_records h).imp_left
    (content_of_records hs ht)

end StreetLayer

/-! ## Service -/

theorem feedRecord_inj {a b : FeedEntry} (h : feedRecord a = feedRecord b) : a = b := by
  simp only [feedRecord, Record.mk.injEq, List.cons.injEq, Field.text.injEq, Field.long.injEq,
    and_true, true_and] at h
  exact Prod.ext h.1 h.2

theorem stopRecord_inj {a b : Stop} (h : a.record = b.record) : a = b := by
  simp only [Stop.record, Record.mk.injEq, List.cons.injEq, Field.text.injEq, Field.signed.injEq,
    and_true, true_and] at h
  obtain ⟨hid, hname, hlatitude, hlongitude⟩ := h
  obtain ⟨id, name, ⟨latitude, longitude⟩⟩ := a
  obtain ⟨id', name', ⟨latitude', longitude'⟩⟩ := b
  cases hid
  cases hname
  cases hlatitude
  cases hlongitude
  rfl

theorem TransitMode.code_inj {a b : TransitMode} (h : a.code = b.code) : a = b := by
  cases a <;> cases b <;> first | rfl | exact absurd h (by decide)

theorem routeRecord_inj {a b : Route} (h : a.record = b.record) : a = b := by
  simp only [Route.record, Record.mk.injEq, List.cons.injEq, Field.text.injEq, Field.word.injEq,
    and_true, true_and] at h
  obtain ⟨hid, hname, hcode⟩ := h
  obtain ⟨id, name, mode⟩ := a
  obtain ⟨id', name', mode'⟩ := b
  cases hid
  cases hname
  cases TransitMode.code_inj hcode
  rfl

/-- Trips can be told apart though their number is not written: each has three fields. -/
theorem tripFields_inj {ts us : List Trip} (h : ts.flatMap Trip.fields = us.flatMap Trip.fields) :
    ts = us := by
  induction ts generalizing us with
  | nil =>
    cases us with
    | nil => rfl
    | cons u us => cases h
  | cons t ts ih =>
    cases us with
    | nil => cases h
    | cons u us =>
      rw [List.flatMap_cons, List.flatMap_cons] at h
      obtain ⟨hfirst, hrest⟩ := List.append_inj h rfl
      simp only [Trip.fields, List.cons.injEq, Field.text.injEq, Field.words.injEq,
        and_true] at hfirst
      obtain ⟨hid, harrivals, hdepartures⟩ := hfirst
      obtain ⟨id, arrivals, departures⟩ := t
      obtain ⟨id', arrivals', departures'⟩ := u
      cases hid
      cases harrivals
      cases hdepartures
      rw [ih hrest]

/-- The positions that a pattern names can be written in 32 bits. -/
def Pattern.Positioned (p : Pattern) : Prop := p.route < 2 ^ 32 ∧ ∀ s ∈ p.stops, s < 2 ^ 32

theorem patternRecord_inj {p q : Pattern} (hp : p.Positioned) (hq : q.Positioned)
    (h : p.record = q.record) : p = q := by
  simp only [Pattern.record, Record.mk.injEq, List.cons.injEq, Field.word.injEq,
    Field.words.injEq, true_and] at h
  obtain ⟨hroute, hstops, htrips⟩ := h
  have hroute' : p.route = q.route := toUInt32_inj hp.1 hq.1 hroute
  have hstops' : p.stops = q.stops :=
    map_inj_of_mem (fun a ha b hb => toUInt32_inj (hp.2 a ha) (hq.2 b hb)) hstops
  have htrips' : p.trips = q.trips := tripFields_inj htrips
  obtain ⟨route, stops, trips⟩ := p
  obtain ⟨route', stops', trips'⟩ := q
  cases hroute'
  cases hstops'
  cases htrips'
  rfl

namespace TransitLayer

/-- The counts and lengths that are written fit into 64 bits, and the positions into 32. -/
structure InRange (t : TransitLayer) : Prop where
  records : RecordsFit t.records
  positions : ∀ p ∈ t.patterns, p.Positioned

theorem regular_records (t : TransitLayer) : ∀ r ∈ t.records, r.Regular := by
  intro r hr
  unfold records at hr
  simp only [List.mem_append, List.mem_map] at hr
  obtain ((⟨feed, -, rfl⟩ | ⟨stop, -, rfl⟩) | ⟨route, -, rfl⟩) | ⟨pattern, -, rfl⟩ := hr
  · exact regular_feedRecord feed
  · exact regular_stopRecord stop
  · exact regular_routeRecord route
  · exact regular_patternRecord pattern

/-- The records of a wanted kind. -/
theorem filter_records (t : TransitLayer) (wanted : String) :
    t.records.filter (fun r => r.kind = wanted) =
      (if "feed" = wanted then t.feeds.entries.map feedRecord else []) ++
        (if "stop" = wanted then t.stops.toList.map Stop.record else []) ++
        (if "route" = wanted then t.routes.toList.map Route.record else []) ++
        if "pattern" = wanted then t.patterns.map Pattern.record else [] := by
  unfold records
  rw [List.filter_append, List.filter_append, List.filter_append,
    filter_kind feedRecord "feed" (fun _ => rfl), filter_kind Stop.record "stop" (fun _ => rfl),
    filter_kind Route.record "route" (fun _ => rfl),
    filter_kind Pattern.record "pattern" (fun _ => rfl)]

theorem content_of_records {t u : TransitLayer} (ht : t.InRange) (hu : u.InRange)
    (h : t.records = u.records) :
    t.feeds = u.feeds ∧ t.stops = u.stops ∧ t.routes = u.routes ∧ t.patterns = u.patterns := by
  have hkind : ∀ wanted, t.records.filter (fun r => r.kind = wanted) =
      u.records.filter (fun r => r.kind = wanted) := fun wanted => by rw [h]
  simp only [filter_records] at hkind
  have hfeeds : t.feeds.entries.map feedRecord = u.feeds.entries.map feedRecord := by
    simpa using hkind "feed"
  have hstops : t.stops.toList.map Stop.record = u.stops.toList.map Stop.record := by
    simpa using hkind "stop"
  have hroutes : t.routes.toList.map Route.record = u.routes.toList.map Route.record := by
    simpa using hkind "route"
  have hpatterns : t.patterns.map Pattern.record = u.patterns.map Pattern.record := by
    simpa using hkind "pattern"
  refine ⟨?_, ?_, ?_, ?_⟩
  · have hentries := map_inj_of_mem (fun _ _ _ _ => feedRecord_inj) hfeeds
    exact FeedTable.eq_of_entries hentries
  · exact Array.toList_inj.1 (map_inj_of_mem (fun _ _ _ _ => stopRecord_inj) hstops)
  · exact Array.toList_inj.1 (map_inj_of_mem (fun _ _ _ _ => routeRecord_inj) hroutes)
  · exact map_inj_of_mem (fun p hp q hq =>
      patternRecord_inj (ht.positions p hp) (hu.positions q hq)) hpatterns

/-- Transit layers with the same digest have the same content or collide. -/
theorem digest_inj {t u : TransitLayer} (ht : t.InRange) (hu : u.InRange)
    (h : t.digest = u.digest) :
    (t.feeds = u.feeds ∧ t.stops = u.stops ∧ t.routes = u.routes ∧ t.patterns = u.patterns) ∨
      Collide (recordInputs t.records) (recordInputs u.records) :=
  (records_of_digest ht.records hu.records t.regular_records u.regular_records h).imp_left
    (content_of_records ht hu)

end TransitLayer

/-! ## Networks -/

/-- What the checksum of a network stands for. -/
structure Content where
  vertices : Array Coordinate
  edges : List StreetEdge
  feeds : FeedTable
  stops : Array Stop
  routes : Array Route
  patterns : List Pattern

namespace Network

/-- The vertices, the edges that are not removed, the feeds, stops, routes and patterns. -/
def content (n : Network) : Content where
  vertices := n.street.content.vertices
  edges := n.street.content.keptEdges
  feeds := n.transit.content.feeds
  stops := n.transit.content.stops
  routes := n.transit.content.routes
  patterns := n.transit.content.patterns

/-- Counts, lengths and positions can be written. -/
structure InRange (n : Network) : Prop where
  street : n.street.content.InRange
  transit : n.transit.content.InRange

/-- The digests of both layers. -/
def layerDigests (n : Network) : List ContentHash :=
  [n.street.content.digest, n.transit.content.digest]

/-- Every byte string that is hashed for the checksum. -/
def hashInputs (n : Network) : List (List UInt8) :=
  recordInputs n.street.content.records ++ recordInputs n.transit.content.records ++
    digestInputs n.layerDigests

/-- An edge that is removed does not count. -/
theorem content_push_removed (n : Network) {edge : StreetEdge} (h : edge.removed = true) :
    { n with street.content.edges := n.street.content.edges.push edge }.content = n.content := by
  have hkept : ∀ s : StreetLayer,
      { s with edges := s.edges.push edge }.keptEdges = s.keptEdges := by
    intro s
    unfold StreetLayer.keptEdges
    rw [Array.toList_push, List.filter_append]
    simp [h]
  unfold content
  rw [← hkept n.street.content]

theorem checksum_eq_of_content {n m : Network} (h : n.content = m.content) :
    n.checksum = m.checksum := by
  obtain ⟨hvertices, hedges, hfeeds, hstops, hroutes, hpatterns⟩ := Content.mk.inj h
  have hstreet : n.street.content.records = m.street.content.records := by
    rw [StreetLayer.records_eq, StreetLayer.records_eq, hvertices, hedges]
  have htransit : n.transit.content.records = m.transit.content.records := by
    unfold TransitLayer.records
    rw [hfeeds, hstops, hroutes, hpatterns]
  unfold checksum StreetLayer.digest TransitLayer.digest
  rw [hstreet, htransit]

theorem content_of_checksum {n m : Network} (hn : n.InRange) (hm : m.InRange)
    (h : n.checksum = m.checksum) :
    n.content = m.content ∨ Collide n.hashInputs m.hashInputs := by
  have hlayers : n.layerDigests = m.layerDigests ∨
      Collide (digestInputs n.layerDigests) (digestInputs m.layerDigests) :=
    digestRoot_inj (show 2 < 2 ^ 64 by decide) (show 2 < 2 ^ 64 by decide) h
  rcases hlayers with hlayers | hcollide
  · obtain ⟨hstreet, hrest⟩ := List.cons.inj hlayers
    obtain ⟨htransit, -⟩ := List.cons.inj hrest
    rcases StreetLayer.digest_inj hn.street hm.street hstreet with hs | hcollide
    · rcases TransitLayer.digest_inj hn.transit hm.transit htransit with ht | hcollide
      · obtain ⟨hvertices, hedges⟩ := hs
        obtain ⟨hfeeds, hstops, hroutes, hpatterns⟩ := ht
        left
        unfold content
        rw [hvertices, hedges, hfeeds, hstops, hroutes, hpatterns]
      · refine .inr (hcollide.mono ?_ ?_)
        · exact List.Subset.trans (List.subset_append_right _ _) (List.subset_append_left _ _)
        · exact List.Subset.trans (List.subset_append_right _ _) (List.subset_append_left _ _)
    · refine .inr (hcollide.mono ?_ ?_)
      · exact List.Subset.trans (List.subset_append_left _ _) (List.subset_append_left _ _)
      · exact List.Subset.trans (List.subset_append_left _ _) (List.subset_append_left _ _)
  · exact .inr (hcollide.mono (List.subset_append_right _ _) (List.subset_append_right _ _))

/-- Networks with the same content have the same checksum, whatever else they differ in.  If all
counts, lengths and positions can be written, then networks with the same checksum have the same
content, or two different byte strings that were hashed for the checksums have the same hash. -/
theorem checksum_identifies_content (n m : Network) :
    (n.content = m.content → n.checksum = m.checksum) ∧
      (n.InRange → m.InRange → n.checksum = m.checksum →
        n.content = m.content ∨ Collide n.hashInputs m.hashInputs) :=
  ⟨checksum_eq_of_content, content_of_checksum⟩

end Network

namespace Sample

/-- The town with one more street edge, which is removed. -/
def scarred : Network :=
  { town with
    street.content.edges := town.street.content.edges.push ⟨0, 6, 250, 30, .all, true⟩ }

/-- The town with another checksum for its feed. -/
def reissued : Network := { town with transit.content := town.transit.content.withFeed "gtfs1" 200 }

theorem inRange_town : town.InRange where
  street := ⟨⟨by decide +kernel, by decide +kernel⟩, by decide +kernel⟩
  transit := ⟨⟨by decide +kernel, by decide +kernel⟩, by
    unfold Pattern.Positioned
    decide +kernel⟩

theorem inRange_reissued : reissued.InRange where
  street := inRange_town.street
  transit := ⟨⟨by decide +kernel, by decide +kernel⟩, inRange_town.transit.positions⟩

/-- A removed edge does not change the checksum of the town, and another feed checksum changes it or
shows two byte strings with the same hash. -/
theorem checksum_scarred_reissued :
    (scarred.street.content.edges.size ≠ town.street.content.edges.size ∧
      scarred.checksum = town.checksum) ∧
    (reissued.checksum = town.checksum → Collide reissued.hashInputs town.hashInputs) := by
  refine ⟨⟨?_, ?_⟩, fun hchecksum => ?_⟩
  · unfold scarred
    simp
  · exact (Network.checksum_identifies_content scarred town).1
      (Network.content_push_removed town rfl)
  · have hcontent : reissued.content ≠ town.content := by
      intro h
      have hfeed : reissued.content.feeds.get? "gtfs1" = town.content.feeds.get? "gtfs1" := by
        rw [h]
      exact absurd hfeed (by decide +kernel)
    exact ((Network.checksum_identifies_content reissued town).2 inRange_reissued inRange_town
      hchecksum).resolve_left hcontent

end Sample

end Multimodal
