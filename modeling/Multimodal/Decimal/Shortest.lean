import Multimodal.Decimal.Binary

/-! # The fewest digits that read back

A double stands for every real number that rounds to it.  `shortest` finds the decimal number with
the fewest digits in that interval, and of those the one nearest to the double.

* `Rounding`: the interval of a double, measured in quarters of its last place.
* `shortest`: the digits; the only free choice, a tie between two nearest candidates, is a `Tie`.
-/

namespace Multimodal.Decimal

/-- The decimal number `significand · 10^exponent`. -/
structure Digits where
  significand : Nat
  exponent : Int
  deriving DecidableEq, Repr

/-- Which of two equally near decimals is taken. -/
inductive Tie
  | up
  | even
  deriving DecidableEq, Repr

namespace Digits

/-- The digits of the significand, most significant first. -/
def text (d : Digits) : List Char := (Nat.repr d.significand).toList

/-- The exponent of the number in scientific notation. -/
def scientific (d : Digits) : Int := d.exponent + (d.text.length : Int) - 1

end Digits

/-- The reals that round to a positive double, in units of a quarter of its last place: the double
itself is `middle`, and the bounds belong to the interval when `closed`. -/
structure Rounding where
  low : Nat
  middle : Nat
  high : Nat
  unit : Int
  closed : Bool

namespace Rounding

/-- Half a place to either side, but only a quarter below a power of two, where the doubles get
denser.  The bounds round to the even neighbour. -/
def ofBinary (b : Binary) : Rounding where
  low := if b.mantissa = Binary.twoPow 52 ∧ b.exponent ≠ -1074 then 4 * b.mantissa - 1
    else 4 * b.mantissa - 2
  middle := 4 * b.mantissa
  high := 4 * b.mantissa + 2
  unit := b.exponent - 2
  closed := b.mantissa % 2 = 0

/-- Whether the multiple `c` of the decimal grid lies in the interval, `place` and `quarter` being
one step of the grid and one unit of the interval on a common scale. -/
def holds (r : Rounding) (place quarter c : Nat) : Bool :=
  if r.closed then r.low * quarter ≤ c * place && c * place ≤ r.high * quarter
  else r.low * quarter < c * place && c * place < r.high * quarter

/-- The point of the grid `10^exponent` that lies in the interval and is nearest to its middle; only
the two neighbours of the middle can be. -/
def onGrid (r : Rounding) (tie : Tie) (exponent : Int) : Option Digits :=
  let place := Binary.tenPow exponent * Binary.twoPow (-r.unit)
  let quarter := Binary.twoPow r.unit * Binary.tenPow (-exponent)
  let below := r.middle * quarter / place
  let toBelow := r.middle * quarter - below * place
  let toAbove := (below + 1) * place - r.middle * quarter
  let upper :=
    if toBelow = toAbove then
      match tie with
      | .up => true
      | .even => below % 2 = 1
    else decide (toAbove < toBelow)
  match r.holds place quarter below, r.holds place quarter (below + 1) with
  | false, false => none
  | true, false => some ⟨below, exponent⟩
  | false, true => some ⟨below + 1, exponent⟩
  | true, true => some ⟨if upper then below + 1 else below, exponent⟩

end Rounding

/-- The power of ten at or below a positive number.  Every positive double is above `10^-400`, so
the scaled quotient is at least one. -/
def decade (b : Binary) : Int :=
  ((Nat.repr (b.numerator * Binary.tenPow 400 / b.denominator)).length : Int) - 401

/-- The shortest decimal of a magnitude.  The first grid has only the power of ten above the double,
the next ones have it with one digit to seventeen, and seventeen digits tell any two doubles
apart. -/
def shortest (tie : Tie) (b : Binary) : Digits :=
  if b.mantissa = 0 then ⟨0, 0⟩
  else
    let r := Rounding.ofBinary b
    let grids := (List.range 18).map fun (n : Nat) => decade b + 1 - (n : Int)
    (grids.findSome? (r.onGrid tie)).getD ⟨0, 0⟩

end Multimodal.Decimal
