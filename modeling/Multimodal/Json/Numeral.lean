import Multimodal.Json.Value

/-! # Numbers as they are written

A numeral is kept as its digits until somebody asks for its value.  Whole numbers of 64 bits are
exact.  All other numerals become doubles: as many leading digits as fit into 64 bits are read as a
natural number, which is then scaled by a power of ten.

* `Numeral`: a numeral's parts.
* `Numeral.value?`: its value; none if it is beyond the range of doubles.
-/

namespace Multimodal

/-- The parts of a numeral.  There is a fraction if it has digits; an exponent has a sign, negative
being true, and digits. -/
structure Numeral where
  negative : Bool
  whole : List Char
  fraction : List Char := []
  exponent : Option (Bool × List Char) := none
  deriving DecidableEq, Repr

namespace Numeral

/-- The value of a decimal digit. -/
def digit (c : Char) : Nat := c.toNat - '0'.toNat

/-- The number that some digits stand for. -/
def ofDigits (cs : List Char) : Nat := cs.foldl (fun n c => 10 * n + digit c) 0

/-- Digits appended to a number while it stays below `2^64`, and the digits that are left. -/
def absorb : Nat → List Char → Nat × List Char
  | n, [] => (n, [])
  | n, c :: cs =>
    if 10 * n + digit c < UInt64.size then absorb (10 * n + digit c) cs else (n, c :: cs)

/-- A double divided by `10^k`, in steps of at most 308 decades; a zero stays what it is. -/
def divide (x : Float) (k : Nat) : Float :=
  if k ≤ 308 then x / Float.ofScientific 1 false k
  else if x == 0.0 then x
  else divide (x / 1e308) (k - 308)
termination_by k

/-- A natural number times a power of ten, unless that is beyond the range of doubles. -/
def scaled? (n : Nat) (e : Int) : Option Float :=
  let x := n.toUInt64.toFloat
  if e < 0 then some (divide x e.natAbs)
  else if e ≤ 308 then
    let y := x * Float.ofScientific 1 false e.toNat
    if y.isInf then none else some y
  else if n = 0 then some x
  else none

/-- A double with a sign. -/
def signed (negative : Bool) (x : Float) : Float := if negative then -x else x

/-- The value of a numeral that is not a whole number of 64 bits.  Of an exponent that no 32 bits hold
only its sign counts. -/
def float? (n : Numeral) : Option Float :=
  let (significand, dropped) := absorb 0 n.whole
  let (significand, left) := absorb significand n.fraction
  let places : Int := dropped.length - (n.fraction.length - left.length : Nat)
  let magnitude :=
    match n.exponent with
    | none => scaled? significand places
    | some (negative, digits) =>
      let e := ofDigits digits
      if UInt32.size / 2 ≤ e then if negative || significand = 0 then some 0.0 else none
      else scaled? significand (if negative then places - e else places + e)
  magnitude.map (signed n.negative)

/-- The value of a numeral. -/
def value? (n : Numeral) : Option Json.Number :=
  let w := ofDigits n.whole
  if n.fraction.isEmpty && n.exponent.isNone then
    if n.negative then
      if 0 < w ∧ w ≤ UInt64.size / 2 then some (.negative (Int64.ofInt (-w)))
      else n.float?.map .float
    else if w < UInt64.size then some (.natural w.toUInt64)
    else n.float?.map .float
  else n.float?.map .float

end Numeral

end Multimodal
