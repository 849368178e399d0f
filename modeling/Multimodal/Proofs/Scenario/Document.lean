import Mathlib
import Multimodal.Proofs.Modification.Document
import Multimodal.Scenario.Document

/-! # Scenarios from their documents

* `FeedTable.feedsOfReading_toJson`: feed checksums come back in their order.
* `Scenario.floats`: the doubles of a scenario.
* `Scenario.ofText_toText`: a scenario that was never resolved is the scenario of its document, as far as
  the layout of its doubles loses nothing.
-/

namespace Multimodal

/-! ## Feed checksums -/

namespace FeedTable

theorem legible (t : FeedTable) (depth : Nat) : t.toJson.Legible (depth + 1) := by
  refine .object fun m hm => ?_
  obtain ⟨e, _, rfl⟩ := List.mem_map.1 hm
  exact .number (Json.Number.legible_natural e.2)

theorem asNatural_reading (checksum : UInt64) :
    (Json.number (.natural checksum)).reading.asNatural = .ok checksum := by
  simp [Json.reading, Reading.asNatural, (Json.Number.legible_natural checksum).2]

/-- Ascending entries are put one behind the other.  By induction on the entries that are left, all of
which lie above those of the table. -/
theorem foldMembers_entries {t : FeedTable} {es : List FeedEntry}
    (h : (t.entries ++ es).Pairwise fun a b => a.1 < b.1) :
    ∃ t', t'.entries = t.entries ++ es ∧
      Reading.foldMembers (fun table name r => (r.asNatural).map (table.insert name)) t
        (Json.memberReadings (es.map fun (name, checksum) => (name, .number (.natural checksum)))) =
          .ok t' := by
  induction es generalizing t with
  | nil => exact ⟨t, by simp, rfl⟩
  | cons e rest ih =>
    obtain ⟨name, checksum⟩ := e
    have hlast : (t.insert name checksum).entries = t.entries ++ [(name, checksum)] :=
      insertByName_of_forall_lt fun e he =>
        (List.pairwise_append.1 h).2.2 e he _ List.mem_cons_self
    have hstep : ((Json.number (.natural checksum)).reading.asNatural).map (t.insert name) =
        .ok (t.insert name checksum) := by rw [asNatural_reading]; rfl
    obtain ⟨t', hentries, hfold⟩ := ih (t := t.insert name checksum) (by simpa [hlast] using h)
    exact ⟨t', by simpa [hlast] using hentries, (Reading.foldMembers_cons _ hstep).trans hfold⟩

theorem feedsOfReading_toJson (t : FeedTable) :
    Scenario.feedsOfReading t.toJson.reading = .ok t := by
  have hascending : (empty.entries ++ t.entries).Pairwise fun a b => a.1 < b.1 := t.ascending
  obtain ⟨t', hentries, hfold⟩ := foldMembers_entries hascending
  obtain rfl : t' = t := eq_of_entries hentries
  exact bind_eq_ok.2 ⟨t', hfold, rfl⟩

end FeedTable

namespace Scenario

/-- The doubles of a scenario. -/
def floats (s : Scenario Modification) : List Float := s.modifications.flatMap (·.change.floats)

theorem readsBack_of_mem {s : Scenario Modification} (h : ∀ x ∈ s.floats, Json.ReadsBack x)
    {m : Modification} (hm : m ∈ s.modifications) : ∀ x ∈ m.change.floats, Json.ReadsBack x :=
  fun x hx => h x (List.mem_flatMap.2 ⟨m, hm, hx⟩)

theorem legible {s : Scenario Modification} (h : ∀ x ∈ s.floats, Json.ReadsBack x) :
    s.toJson.Legible 5 := by
  refine .object (Json.legibleMembers_append.2 ⟨?_, ?_⟩)
  · exact Json.legibleMembers_optional "id" fun id _ => .string id
  · simp only [Json.legibleMembers_cons]
    exact ⟨.string _, Json.legible_ofList fun m hm => Modification.legible (readsBack_of_mem h hm),
      s.feeds.legible 3, Json.legibleMembers_nil 4⟩

theorem ofReading_toJson {s : Scenario Modification} (h : ∀ x ∈ s.floats, Json.ReadsBack x)
    (hfresh : ∀ m ∈ s.modifications, m.Unresolved) : ofReading s.toJson.reading = .ok s := by
  have hmodifications : Reading.asList (Modification.ofReading (Json.depthLimit - 2))
      (Json.ofList Modification.toJson s.modifications).reading = .ok s.modifications :=
    Reading.asList_reading fun m hm =>
      Modification.ofReading_toJson (hfresh m hm) (readsBack_of_mem h hm) (by decide)
  have hfeeds := s.feeds.feedsOfReading_toJson
  obtain ⟨id, description, modifications, feeds⟩ := s
  -- the draft after each member in turn; without an id the first step is left out
  have hid : ∀ rest, Reading.foldMembers Draft.step {}
      (Json.memberReadings (Json.optional "id" .string id ++ rest)) =
        Reading.foldMembers Draft.step { id := id.map some } (Json.memberReadings rest) := by
    intro rest
    cases id with
    | none => rfl
    | some id => exact Reading.foldMembers_cons _ rfl
  have hdescribed : Draft.step { id := id.map some } "description" (Json.string description).reading =
      .ok ⟨id.map some, some description, none, none⟩ := rfl
  have hmodified : Draft.step ⟨id.map some, some description, none, none⟩ "modifications"
      (Json.ofList Modification.toJson modifications).reading =
        .ok ⟨id.map some, some description, some modifications, none⟩ := by
    simp [Draft.step, Reading.once, hmodifications, Except.map, bind, Except.bind, pure, Except.pure]
  have hfed : Draft.step ⟨id.map some, some description, some modifications, none⟩ "feedChecksums"
      feeds.toJson.reading =
        .ok ⟨id.map some, some description, some modifications, some feeds⟩ := by
    simp [Draft.step, Reading.once, hfeeds, Except.map, bind, Except.bind, pure, Except.pure]
  have hfold := (hid _).trans ((Reading.foldMembers_cons _ hdescribed).trans
    ((Reading.foldMembers_cons _ hmodified).trans (Reading.foldMembers_cons [] hfed)))
  have hrecord : Reading.record ["id", "description", "modifications", "feedChecksums"] Draft.step {}
      (toJson ⟨id, description, modifications, feeds⟩).reading =
        .ok ⟨id.map some, some description, some modifications, some feeds⟩ :=
    bind_eq_ok.2 ⟨_, hfold, rfl⟩
  rw [ofReading, hrecord]
  cases id <;> rfl

/-- A scenario that was never resolved comes back from its document. -/
theorem ofText_toText (s : Scenario Modification) (hfinite : ∀ x ∈ s.floats, x.isFinite = true)
    (hwriter : ∀ x ∈ s.floats, x.isFinite = true → Json.ReadsBack x)
    (hfresh : ∀ m ∈ s.modifications, m.Unresolved) : ofText s.toText = .ok s := by
  have hback : ∀ x ∈ s.floats, Json.ReadsBack x := fun x hx => hwriter x hx (hfinite x hx)
  unfold ofText toText
  rw [Json.read_pretty (legible hback)]
  exact bind_eq_ok.2 ⟨s, ofReading_toJson hback hfresh, rfl⟩

end Scenario

namespace Sample

/-- A scenario with every kind, optional parameters given and left out, and texts that need escapes. -/
def evening : Scenario Modification where
  id := some "quai \"nord\" \\ 9\u00e8me"
  description := "line one\nline two\t\u0001\u20ac"
  modifications :=
    [⟨.modifyStreets ⟨⟨45.0, 7.0, 45.01, 7.01⟩, some 0.5, some ⟨1⟩, []⟩, { comment := some "buses" }⟩,
      ⟨.modifyStreets ⟨⟨-45.5, -0.0, 45.5, 1e-7⟩, none, none, []⟩, {}⟩,
      ⟨.removeStreets ⟨⟨45.0, 7.0, 45.01, 7.01⟩, []⟩, { comment := some "" }⟩,
      ⟨.addStreets ⟨[(45.0, 7.0), (45.01, 7.01)], 30.0, .all, none⟩, {}⟩,
      ⟨.removeTrips ⟨["r1"], [], []⟩, {}⟩,
      ⟨.removeStops ⟨[], ["a", "type"], [], []⟩, {}⟩,
      ⟨.adjustSpeed ⟨["r1", "r2"], 1.25, []⟩, {}⟩,
      ⟨.adjustDwellTime ⟨["r1"], [], some 45, none, [], []⟩, {}⟩,
      ⟨.adjustDwellTime ⟨["r1"], ["a"], none, some 1e300, [], []⟩, {}⟩,
      ⟨.addTrips ⟨"r9", "Night", .tram, [⟨"a", none, none, none⟩, ⟨"z", some "Z", some 45.0, some 7.0⟩],
        [300], [0, 30], [25200, 4294967295]⟩, {}⟩]
  feeds := .ofList [("gtfs2", 18446744073709551615), ("\u001f", 0), ("gtfs1", 100)]

/-- The digits of a long number are counted without its text. -/
theorem decade_eq (b : Decimal.Binary) : Decimal.decade b =
    ((Nat.toDigits 10 (b.numerator * Decimal.Binary.tenPow 400 / b.denominator)).length : Int) -
      401 := by
  rw [Decimal.decade, ← String.length_toList, Nat.toList_repr]

theorem ofText_evening :
    (∀ x ∈ evening.floats, x.isFinite = true) ∧
      (∀ x ∈ evening.floats, x.isFinite = true → Json.ReadsBack x) ∧
        (∀ m ∈ evening.modifications, m.Unresolved) ∧
          Scenario.ofText evening.toText = .ok evening := by
  have hfinite : ∀ x ∈ evening.floats, x.isFinite = true := by decide +kernel
  have hwriter : ∀ x ∈ evening.floats, x.isFinite = true → Json.ReadsBack x := by
    simp only [Json.ReadsBack, Decimal.Layout.render, Decimal.shortest, decade_eq]
    decide +kernel
  have hfresh : ∀ m ∈ evening.modifications, m.Unresolved := by decide +kernel
  exact ⟨hfinite, hwriter, hfresh, Scenario.ofText_toText evening hfinite hwriter hfresh⟩

end Sample

end Multimodal
