import Multimodal.Decimal.Shortest

/-! # How the shortest digits are laid out

The library writes doubles in two places: in messages and in documents.  Both take the shortest
digits; a `Layout` holds the decisions in which they differ.

* `Layout.message`: always positional, whole numbers without a point.
* `Layout.document`: positional between `10^-5` and `10^16`, scientific outside, and never a bare
  whole number.
-/

namespace Multimodal.Decimal

/-- The decisions of a format for doubles. -/
structure Layout where
  /-- The scientific exponents that are written without one. -/
  positional : Int → Bool
  /-- What follows the digits of a whole number written positionally. -/
  wholeSuffix : String
  /-- Which of two nearest shortest decimals is written. -/
  tie : Tie
  notANumber : String
  infinite : Bool → String

namespace Layout

/-- Messages: every number is positional and a whole number has no point. -/
def message : Layout where
  positional _ := true
  wholeSuffix := ""
  tie := .up
  notANumber := "NaN"
  infinite negative := if negative then "-inf" else "inf"

/-- Documents: a number always shows a point or an exponent, and what is not finite is null. -/
def document : Layout where
  positional e := -5 ≤ e && e ≤ 15
  wholeSuffix := ".0"
  tie := .even
  notANumber := "null"
  infinite _ := "null"

end Layout

/-- Digits written out in full, with zeros between them and the point where needed. -/
def positionalText (wholeSuffix : String) (d : Digits) : List Char :=
  let digits := d.text
  if 0 ≤ d.exponent then
    digits ++ List.replicate d.exponent.toNat '0' ++ wholeSuffix.toList
  else
    let places := (-d.exponent).toNat
    if places < digits.length then
      let whole := digits.length - places
      digits.take whole ++ '.' :: digits.drop whole
    else '0' :: '.' :: (List.replicate (places - digits.length) '0' ++ digits)

/-- One digit before the point, the others behind it, and a signed exponent. -/
def scientificText (d : Digits) : List Char :=
  let e := d.scientific
  let exponent := 'e' :: (if e < 0 then '-' else '+') :: (Nat.repr e.natAbs).toList
  match d.text with
  | [] => exponent
  | [c] => c :: exponent
  | c :: rest => c :: '.' :: rest ++ exponent

/-- A double under a layout. -/
def Layout.render (l : Layout) (x : Float) : String :=
  match Binary.ofFloat? x with
  | none => if x.isNaN then l.notANumber else l.infinite (x < 0)
  | some b =>
    let d := shortest l.tie b
    let magnitude :=
      if l.positional d.scientific then positionalText l.wholeSuffix d else scientificText d
    String.ofList (if b.negative then '-' :: magnitude else magnitude)

end Multimodal.Decimal
