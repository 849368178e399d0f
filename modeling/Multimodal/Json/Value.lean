/-! # JSON values

* `Json.Number`: a number as documents mean it, a whole number of 64 bits or a double.
* `Json`: a value; the members of an object are in the order of the text.
-/

namespace Multimodal

/-- A number in a document: a natural number, a negative whole number, or anything else, which is
held as a double. -/
inductive Json.Number
  | natural (n : UInt64)
  | negative (n : Int64)
  | float (x : Float)
  deriving DecidableEq, Repr

/-- The number as a double. -/
def Json.Number.toFloat : Json.Number → Float
  | natural n => n.toFloat
  | negative n => n.toFloat
  | float x => x

/-- A JSON value. -/
inductive Json
  | null
  | bool (b : Bool)
  | number (n : Json.Number)
  | string (s : String)
  | array (items : List Json)
  | object (members : List (String × Json))
  deriving Repr

namespace Json

/-- A natural number that fits 64 bits. -/
def ofNat (n : Nat) : Json := .number (.natural n.toUInt64)

/-- A double. -/
def ofFloat (x : Float) : Json := .number (.float x)

/-- A value that may be missing. -/
def ofOption {α : Type} (f : α → Json) : Option α → Json
  | none => .null
  | some a => f a

/-- A list of values. -/
def ofList {α : Type} (f : α → Json) (as : List α) : Json := .array (as.map f)

/-- An optional member of an object; a missing one leaves no trace. -/
def optional {α : Type} (name : String) (f : α → Json) : Option α → List (String × Json)
  | none => []
  | some a => [(name, f a)]

end Json

end Multimodal
