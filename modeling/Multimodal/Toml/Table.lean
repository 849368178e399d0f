/-! # Settings tables

Settings are tables of values by name.  A table can come about in three ways, which decides where it
may be added to: it is opened once by its own header or braces, it is implied by the header of a table
inside it, or it is implied by a dotted name.

* `Toml`: a value.
* `TomlKey`: a dotted name.
* `TomlTable`: a table under construction; `define`, `openTable` and `openItem` add to it.
-/

namespace Multimodal

/-- A value; times and dates are kept as they are written. -/
inductive Toml
  | text (s : String)
  | boolean (b : Bool)
  | integer (n : Int)
  | float (x : Float)
  | moment (written : String)
  | array (items : List Toml)
  | table (members : List (String × Toml))
  deriving Repr

/-- A dotted name: the tables it leads through, and the name itself. -/
structure TomlKey where
  path : List String
  name : String
  deriving DecidableEq, Repr

/-- How a table came about. -/
inductive TomlOrigin
  | opened
  | implied
  | dotted
  deriving DecidableEq, Repr

/-- What stands under a name while a table is built: a value, a table, or the tables of an array that
headers add to, the last of which is still open. -/
inductive TomlNode
  | value (v : Toml)
  | table (origin : TomlOrigin) (members : List (String × TomlNode))
  | tables (earlier : List (List (String × TomlNode))) (last : List (String × TomlNode))

/-- A table under construction. -/
abbrev TomlTable := List (String × TomlNode)

namespace TomlTable

/-! ## Adding -/

/-- The table with something else under a name. -/
def put (t : TomlTable) (name : String) (node : TomlNode) : TomlTable :=
  (name, node) :: t.filter (·.1 ≠ name)

/-- Changes the table at the end of a path, which is made if it is missing.  A dotted name does not
lead into tables that were opened. -/
def reach (dotted : Bool) (change : TomlOrigin → TomlTable → Option TomlTable) :
    List String → TomlOrigin → TomlTable → Option TomlTable
  | [], origin, t => change origin t
  | name :: path, _, t =>
    match t.lookup name with
    | none => do
      let origin := if dotted then .dotted else .implied
      return t.put name (.table origin (← reach dotted change path origin []))
    | some (.table origin inner) =>
      if dotted ∧ origin = .opened then none
      else do return t.put name (.table origin (← reach dotted change path origin inner))
    | some (.tables earlier last) => do
      return t.put name (.tables earlier (← reach dotted change path .opened last))
    | some (.value _) => none

/-- The table with a value under a dotted name.  The name must be free, and the table it leads to must
be this one or one that dotted names made. -/
def define (t : TomlTable) (key : TomlKey) (v : Toml) : Option TomlTable :=
  reach true
    (fun origin inner =>
      if ¬key.path.isEmpty ∧ origin ≠ .dotted then none
      else if (inner.lookup key.name).isSome then none
      else some (inner.put key.name (.value v)))
    key.path .opened t

/-- The table with some values under their names. -/
def defineAll (t : TomlTable) (pairs : List (TomlKey × Toml)) : Option TomlTable :=
  pairs.foldlM (fun t pair => t.define pair.1 pair.2) t

/-- The table with a table inside it opened by its header and filled. -/
def openTable (t : TomlTable) (key : TomlKey) (pairs : List (TomlKey × Toml)) : Option TomlTable :=
  reach false
    (fun _ inner =>
      match inner.lookup key.name with
      | none => do return inner.put key.name (.table .opened (← defineAll [] pairs))
      | some (.table .implied members) => do
        return inner.put key.name (.table .opened (← defineAll members pairs))
      | some _ => none)
    key.path .opened t

/-- The table with one more table in an array of tables. -/
def openItem (t : TomlTable) (key : TomlKey) (pairs : List (TomlKey × Toml)) : Option TomlTable :=
  reach false
    (fun _ inner =>
      match inner.lookup key.name with
      | none => do return inner.put key.name (.tables [] (← defineAll [] pairs))
      | some (.tables earlier last) => do
        return inner.put key.name (.tables (earlier ++ [last]) (← defineAll [] pairs))
      | some _ => none)
    key.path .opened t

end TomlTable

/-! ## The finished values -/

mutual

/-- What stands under a name, once everything is read. -/
def TomlNode.finish : TomlNode → Toml
  | .value v => v
  | .table _ members => .table (finishMembers members)
  | .tables earlier last => .array (finishTables earlier ++ [.table (finishMembers last)])

/-- The members of a finished table. -/
def finishMembers : List (String × TomlNode) → List (String × Toml)
  | [] => []
  | (name, node) :: rest => (name, node.finish) :: finishMembers rest

/-- The tables of a finished array. -/
def finishTables : List (List (String × TomlNode)) → List Toml
  | [] => []
  | members :: rest => .table (finishMembers members) :: finishTables rest

end

end Multimodal
