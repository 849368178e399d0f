import Multimodal.Json.Numeral

/-! # Text as far as it can be read

Reading a text gives a tree even where the text goes wrong: the tree then ends in a fault, with
everything before it in place.  Whoever makes use of the tree goes through it in the order of the
text, so of several faults the first one counts, and a member of the wrong shape counts before a
fault behind it.

* `Flaw`, `Fault`: what is wrong with a text.
* `Reading`: the tree.
* `Reading.value`: the whole value, or the first fault.
* `Reading.skip`: the first fault that counts even in a value that nobody looks at.
-/

namespace Multimodal

/-- A text is malformed, or it ends too early. -/
inductive Flaw
  | malformed
  | cutOff
  deriving DecidableEq, Repr

/-- A place where a text cannot be read on.  Values that nobody looks at are read less closely, so
that the flaw there may be another one. -/
structure Fault where
  read : Flaw
  skipped : Flaw
  deriving DecidableEq, Repr

namespace Fault

/-- A fault that is the same however closely a text is read. -/
def plain (f : Flaw) : Fault := ⟨f, f⟩

def malformed : Fault := plain .malformed
def cutOff : Fault := plain .cutOff

/-- A numeral that ends too early, which looks malformed to a reader that skips it. -/
def cutNumeral : Fault := ⟨.cutOff, .malformed⟩

end Fault

/-- A text as far as it can be read.  A string is missing if its escapes do not make up whole
characters; a container has an ending fault if it is not closed. -/
inductive Reading
  | null
  | bool (b : Bool)
  | number (n : Numeral)
  | string (s : Option String)
  | array (items : List Reading) (ending : Option Fault)
  | object (members : List (Option String × Reading)) (ending : Option Fault)
  | broken (f : Fault)

namespace Reading

/-- A result where there is no fault. -/
def settle {α : Type} (f : Option Flaw) (a : α) : Except Flaw α :=
  match f with
  | none => .ok a
  | some f => .error f

/-- A string whose escapes must make up whole characters. -/
def text : Option String → Except Flaw String
  | some s => .ok s
  | none => .error .malformed

mutual

/-- The value of a tree in which at most `depth` containers lie in one another, the outermost
included. -/
def value (depth : Nat) : Reading → Except Flaw Json
  | .null => .ok .null
  | .bool b => .ok (.bool b)
  | .number n =>
    match n.value? with
    | some v => .ok (.number v)
    | none => .error .malformed
  | .string s => (text s).map .string
  | .array items ending =>
    if depth = 0 then .error .malformed
    else do
      let values ← itemValues (depth - 1) items
      settle (ending.map Fault.read) (.array values)
  | .object members ending =>
    if depth = 0 then .error .malformed
    else do
      let values ← memberValues (depth - 1) members
      settle (ending.map Fault.read) (.object values)
  | .broken f => .error f.read

/-- The values of the items of an array. -/
def itemValues (depth : Nat) : List Reading → Except Flaw (List Json)
  | [] => .ok []
  | item :: rest => do
    let v ← value depth item
    let vs ← itemValues depth rest
    .ok (v :: vs)

/-- The values of the members of an object. -/
def memberValues (depth : Nat) :
    List (Option String × Reading) → Except Flaw (List (String × Json))
  | [] => .ok []
  | (key, member) :: rest => do
    let k ← text key
    let v ← value depth member
    let vs ← memberValues depth rest
    .ok ((k, v) :: vs)

end

mutual

/-- The first fault of a tree that nobody looks at. -/
def skip : Reading → Option Flaw
  | .array items ending => (skipItems items).or (ending.map Fault.skipped)
  | .object members ending => (skipMembers members).or (ending.map Fault.skipped)
  | .broken f => some f.skipped
  | .null | .bool _ | .number _ | .string _ => none

/-- The first fault of the items of an array. -/
def skipItems : List Reading → Option Flaw
  | [] => none
  | item :: rest => (skip item).or (skipItems rest)

/-- The first fault of the members of an object. -/
def skipMembers : List (Option String × Reading) → Option Flaw
  | [] => none
  | (_, member) :: rest => (skip member).or (skipMembers rest)

end

end Reading

end Multimodal
