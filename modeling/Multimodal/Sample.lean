import Multimodal.Network.Basic

/-! # A sample town

A small network to try scenarios on: a square grid of streets, two lines that cross in its middle, and
one feed.

* `Sample.grid`, `Sample.lane`: the streets, for a grid of any size, and a single one.
* `Sample.twoLines`: the lines.
* `Sample.town`: both together, with everything derived.
-/

namespace Multimodal

namespace Sample

/-! ## Streets -/

/-- The crossing in a row and a column: rows go north in steps of 0.002 degrees and columns east in
steps of 0.003 degrees. -/
def crossing (row column : Nat) : Coordinate :=
  .ofDegrees (45.0 + row.toFloat * 0.002) (7.0 + column.toFloat * 0.003)

/-- The rows and columns of a grid, row by row. -/
def cells (size : Nat) : List (Nat × Nat) :=
  (List.range size).flatMap fun row => (List.range size).map (row, ·)

/-- The streets of 30 km/h that start at a crossing: one to the east and one to the north. -/
def streetsFrom (size : Nat) (cell : Nat × Nat) : Edit StreetLayer Unit := do
  let (row, column) := cell
  let here := row * size + column
  if column + 1 < size then
    let _ ← StreetLayer.addStreet here (here + 1) (speedOfKph 30.0) .all
  if row + 1 < size then
    let _ ← StreetLayer.addStreet here (here + size) (speedOfKph 30.0) .all

/-- A square grid of streets in both directions, its crossings numbered row by row. -/
def grid (size : Nat) : StreetLayer :=
  let build : Edit StreetLayer Unit := do
    (cells size).forM fun (row, column) => do
      let _ ← StreetLayer.addVertex (crossing row column)
    (cells size).forM (streetsFrom size)
  (build.attempt {}).2

/-- A one-way street of 222 metres, placed to the unit. -/
def lane : StreetLayer where
  vertices := #[⟨450000000, 70000000⟩, ⟨450020000, 70000000⟩]
  edges := #[⟨0, 1, 222222, 833, .all, false⟩]
  liveDegree := #[1, 1]

/-! ## Lines -/

/-- Six stops, each at a crossing: four on the diagonal and two in the other corners. -/
def stops : List (String × Nat × Nat) :=
  [("a", 0, 0), ("b", 1, 1), ("c", 2, 2), ("d", 3, 3), ("x", 0, 4), ("y", 4, 0)]

/-- Adds a pattern of trips that share their durations. -/
def addLine (route : RouteIndex) (calls : List StopIndex) (d : Durations)
    (trips : List (String × Seconds)) : Edit TransitLayer Unit := do
  match trips.mapM fun (id, first) => Trip.build id first d with
  | .error e => throw e
  | .ok trips =>
    let _ ← TransitLayer.addPattern ⟨route, calls, trips⟩

/-- A bus line with two trips along the diagonal, and a tram line with one trip that crosses it. -/
def twoLines : TransitLayer :=
  let build : Edit TransitLayer Unit := do
    modify (·.withFeed "gtfs1" 100)
    stops.forM fun (id, row, column) => do
      let _ ← TransitLayer.addStop ⟨id, s!"Stop {id}", crossing row column⟩
    let bus ← TransitLayer.addRoute ⟨"r1", "Diagonal", .bus⟩
    let tram ← TransitLayer.addRoute ⟨"r2", "Cross", .tram⟩
    addLine bus [0, 1, 2, 3] ⟨[0, 30, 30, 0], [120, 120, 120]⟩
      [("r1-0800", 28800), ("r1-0830", 30600)]
    addLine tram [4, 2, 5] ⟨[0, 60, 0], [300, 300]⟩ [("r2-0900", 32400)]
  (build.attempt {}).2

/-! ## The town -/

/-- The two lines in a grid of five by five crossings. -/
def town : Network := .build (grid 5) twoLines {}

end Sample

end Multimodal
