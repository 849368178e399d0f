import Multimodal.Json.Reader

/-! # From JSON to records

Documents are decoded in two ways.  A record that stands at the top of a text is decoded while its
text is gone through, so the first fault or misfit in the order of the text is the error.  A record
further down is decoded from a complete value.

* `DocumentError`: why a text is not a document.
* `Reading.record`: a record decoded in the order of the text.
* `Json.field`, `Json.fieldOr`, `Json.fieldOption`: the members of a complete record.
-/

namespace Multimodal

/-- Why a text is not a document: it is no JSON text, or its value has another shape. -/
inductive DocumentError
  | text (f : Flaw)
  | shape
  deriving DecidableEq, Repr

/-! ## In the order of the text -/

namespace Reading

/-- A result of reading as a result of decoding. -/
def decoded {α : Type} (r : Except Flaw α) : Except DocumentError α := r.mapError .text

/-- The error where another kind of value was expected.  Simple values are read before they are
refused; containers are refused at once. -/
def misfit : Reading → DocumentError
  | .broken f => .text f.read
  | .number n => if n.value?.isNone then .text .malformed else .shape
  | .string none => .text .malformed
  | _ => .shape

/-- A string. -/
def asText : Reading → Except DocumentError String
  | .string (some s) => .ok s
  | r => .error r.misfit

/-- A double, written as any number. -/
def asFloat : Reading → Except DocumentError Float
  | .number n =>
    match n.value? with
    | some v => .ok v.toFloat
    | none => .error (.text .malformed)
  | r => .error r.misfit

/-- A natural number of 64 bits. -/
def asNatural : Reading → Except DocumentError UInt64
  | .number n =>
    match n.value? with
    | some (.natural v) => .ok v
    | some _ => .error .shape
    | none => .error (.text .malformed)
  | r => .error r.misfit

/-- A value that may be null. -/
def asOption {α : Type} (decode : Reading → Except DocumentError α) :
    Reading → Except DocumentError (Option α)
  | .null => .ok none
  | r => (decode r).map some

/-- The end of a container. -/
def atEnd {α : Type} (ending : Option Fault) (a : α) : Except DocumentError α :=
  decoded (settle (ending.map Fault.read) a)

/-- An array of values. -/
def asList {α : Type} (decode : Reading → Except DocumentError α) :
    Reading → Except DocumentError (List α)
  | .array items ending => do
    let as ← items.mapM decode
    atEnd ending as
  | r => .error r.misfit

/-- What is made of members one after the other. -/
def foldMembers {σ : Type} (step : σ → String → Reading → Except DocumentError σ) :
    σ → List (Option String × Reading) → Except DocumentError σ
  | d, [] => .ok d
  | d, (key, member) :: rest => do
    let key ← decoded (text key)
    let d ← step d key member
    foldMembers step d rest

/-- A table of values by name. -/
def asTable {σ : Type} (step : σ → String → Reading → Except DocumentError σ) (start : σ) :
    Reading → Except DocumentError σ
  | .object members ending => do
    let d ← foldMembers step start members
    atEnd ending d
  | r => .error r.misfit

/-- A record, written as an object, or as an array of its fields in the order of their names.  Fields
at the end of an array may be missing; one too many makes the text malformed. -/
def record {σ : Type} (names : List String) (step : σ → String → Reading → Except DocumentError σ)
    (start : σ) : Reading → Except DocumentError σ
  | .array items ending => do
    let d ← foldMembers step start ((names.map some).zip items)
    if names.length < items.length then .error (.text .malformed) else atEnd ending d
  | r => asTable step start r

/-- A field of a record, which may be given once. -/
def once {α : Type} (given : Option α) (decode : Reading → Except DocumentError α) (r : Reading) :
    Except DocumentError (Option α) :=
  match given with
  | some _ => .error .shape
  | none => (decode r).map some

/-- A member that no field is named for. -/
def ignored {σ : Type} (d : σ) (r : Reading) : Except DocumentError σ :=
  decoded (settle r.skip d)

end Reading

/-- A document from a whole text. -/
def Json.Text.decode {α : Type} (t : Json.Text) (decode : Reading → Except DocumentError α) :
    Except DocumentError α := do
  let a ← decode t.tree
  Reading.decoded (Reading.settle t.trailing a)

/-! ## From complete values -/

namespace Json

/-- A string. -/
def asText? : Json → Option String
  | .string s => some s
  | _ => none

/-- A double, written as any number. -/
def asFloat? : Json → Option Float
  | .number n => some n.toFloat
  | _ => none

/-- A truth value. -/
def asBoolean? : Json → Option Bool
  | .bool b => some b
  | _ => none

/-- A whole number. -/
def asInteger? : Json → Option Int
  | .number (.natural n) => some n.toNat
  | .number (.negative n) => some n.toInt
  | _ => none

/-- A natural number up to a limit. -/
def asNatural? (limit : Nat) : Json → Option Nat
  | .number (.natural n) => if n.toNat ≤ limit then some n.toNat else none
  | _ => none

/-- An array of values. -/
def asList? {α : Type} (decode : Json → Option α) : Json → Option (List α)
  | .array items => items.mapM decode
  | _ => none

/-- A value that may be null. -/
def asOption? {α : Type} (decode : Json → Option α) : Json → Option (Option α)
  | .null => some none
  | v => (decode v).map some

/-- The values of all members with a name. -/
def named (name : String) (members : List (String × Json)) : List Json :=
  (members.filter (·.1 = name)).map (·.2)

/-- A member that must be there, once. -/
def field {α : Type} (name : String) (decode : Json → Option α) (members : List (String × Json)) :
    Option α :=
  match named name members with
  | [v] => decode v
  | _ => none

/-- A member that takes a default when it is missing. -/
def fieldOr {α : Type} (name : String) (default : α) (decode : Json → Option α)
    (members : List (String × Json)) : Option α :=
  match named name members with
  | [] => some default
  | [v] => decode v
  | _ => none

/-- A member that may be missing or null. -/
def fieldOption {α : Type} (name : String) (decode : Json → Option α)
    (members : List (String × Json)) : Option (Option α) :=
  fieldOr name none (asOption? decode) members

end Json

end Multimodal
