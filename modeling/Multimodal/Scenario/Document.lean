import Multimodal.Modification.Document
import Multimodal.Scenario.Basic

/-! # Scenarios as documents

* `Scenario.toText`: the document of a scenario of built-in modifications.
* `Scenario.ofText`: the scenario of a document; what is missing takes its default.
-/

namespace Multimodal

/-- The document of some feed checksums. -/
def FeedTable.toJson (t : FeedTable) : Json :=
  .object (t.entries.map fun (name, checksum) => (name, .number (.natural checksum)))

namespace Scenario

/-- The document of a scenario. -/
def toJson (s : Scenario Modification) : Json :=
  .object (Json.optional "id" .string s.id ++
    [("description", .string s.description),
      ("modifications", .ofList Modification.toJson s.modifications),
      ("feedChecksums", s.feeds.toJson)])

/-- The document of a scenario as text. -/
def toText (s : Scenario Modification) : String := s.toJson.pretty

/-- The fields read so far. -/
structure Draft where
  id : Option (Option String) := none
  description : Option String := none
  modifications : Option (List Modification) := none
  feeds : Option FeedTable := none

/-- A table of feed checksums. -/
def feedsOfReading (r : Reading) : Except DocumentError FeedTable :=
  r.asTable (fun table name r => (r.asNatural).map (table.insert name)) {}

/-- One more field. -/
def Draft.step (d : Draft) (key : String) (r : Reading) : Except DocumentError Draft :=
  match key with
  | "id" => do return { d with id := ← r.once d.id (Reading.asOption Reading.asText) }
  | "description" => do return { d with description := ← r.once d.description Reading.asText }
  | "modifications" => do
    let decode := Reading.asList (Modification.ofReading (Json.depthLimit - 2))
    return { d with modifications := ← r.once d.modifications decode }
  | "feedChecksums" => do return { d with feeds := ← r.once d.feeds feedsOfReading }
  | _ => r.ignored d

/-- The scenario with defaults for the fields that are missing. -/
def Draft.finish (d : Draft) : Scenario Modification where
  id := d.id.getD none
  description := d.description.getD defaultDescription
  modifications := d.modifications.getD []
  feeds := d.feeds.getD {}

/-- The scenario of a tree. -/
def ofReading (r : Reading) : Except DocumentError (Scenario Modification) :=
  (r.record ["id", "description", "modifications", "feedChecksums"] Draft.step {}).map Draft.finish

/-- The scenario of a text. -/
def ofText (s : String) : Except DocumentError (Scenario Modification) :=
  (Json.read s).decode ofReading

end Scenario

end Multimodal
