/-! # The exact value of a double

A finite double is `±mantissa · 2^exponent` with a mantissa below `2^53`.  Everything that writes a
double starts from this form and goes on in exact natural-number arithmetic.

* `Binary.ofFloat?`: the parts of a finite double, `none` for the infinities and for "not a number".
* `Binary.numerator`, `Binary.denominator`: its magnitude as a quotient.
-/

namespace Multimodal.Decimal

/-- The number `±mantissa · 2^exponent`. -/
structure Binary where
  negative : Bool
  mantissa : Nat
  exponent : Int
  deriving DecidableEq, Repr

namespace Binary

/-- `2^e` for a natural `e`, and one for a negative `e`. -/
def twoPow (e : Int) : Nat := Nat.pow 2 e.toNat

/-- `10^e` for a natural `e`, and one for a negative `e`. -/
def tenPow (e : Int) : Nat := Nat.pow 10 e.toNat

/-- The exact value of a finite double; subnormal numbers share the exponent of the smallest normal
ones. -/
def ofFloat? (x : Float) : Option Binary :=
  let bits : Nat := x.toBits.toNat
  let negative := decide (twoPow 63 ≤ bits)
  let biased : Nat := bits / twoPow 52 % twoPow 11
  let fraction : Nat := bits % twoPow 52
  if biased = 2047 then none
  else if biased = 0 then some ⟨negative, fraction, -1074⟩
  else some ⟨negative, fraction + twoPow 52, (biased : Int) - 1075⟩

/-- The magnitude is `numerator / denominator`. -/
def numerator (b : Binary) : Nat := b.mantissa * twoPow b.exponent

@[inherit_doc numerator]
def denominator (b : Binary) : Nat := twoPow (-b.exponent)

end Binary

end Multimodal.Decimal
