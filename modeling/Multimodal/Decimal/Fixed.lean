import Multimodal.Decimal.Binary

/-! # A fixed number of decimal places

The exact value of a double, rounded to so many places.  A half goes to the even neighbour, and the
sign stays even where every digit is zero.
-/

namespace Multimodal.Decimal

/-- The quotient to the nearest natural number, a half going to the even one. -/
def roundHalfEven (num den : Nat) : Nat :=
  let below := num / den
  let rest := num % den
  if 2 * rest < den then below
  else if den < 2 * rest then below + 1
  else if below % 2 = 0 then below else below + 1

/-- A double with exactly `places` digits behind the point. -/
def fixed (places : Nat) (x : Float) : String :=
  match Binary.ofFloat? x with
  | none => if x.isNaN then "NaN" else if x < 0 then "-inf" else "inf"
  | some b =>
    let scaled := roundHalfEven (b.numerator * Binary.tenPow places) b.denominator
    let fraction := (Nat.repr (scaled % Binary.tenPow places)).toList
    let padded := List.replicate (places - fraction.length) '0' ++ fraction
    let magnitude := (Nat.repr (scaled / Binary.tenPow places)).toList ++ '.' :: padded
    String.ofList (if b.negative then '-' :: magnitude else magnitude)

end Multimodal.Decimal
