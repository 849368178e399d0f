import Mathlib
import Multimodal.Geo.Coordinate

/-! # The distance is symmetric

Exchanging two points turns the sign of both differences or, for a difference of zero, leaves it as
it is.  A factor carries the sign along and squaring forgets it.

* `Mirrored`: two doubles that are equal or differ in their sign only.
* `Coordinate.distance_comm`: the distance from one point to another is the distance back.
* `Coordinate.beyond_of_meridian`: points on one meridian that are too far apart whatever a degree of
  longitude measures.
-/

namespace Multimodal

open Float.Model Float.Model.UnpackedFloat

/-! ## Signs -/

theorem sign_neg_mul (s t : Sign) : -s * t = -(s * t) := by
  cases s <;> cases t <;> rfl

theorem sign_neg_mul_neg (s t : Sign) : -s * -t = s * t := by
  cases s <;> cases t <;> rfl

/-! ## Packing -/

theorem unpack_packComponents_neg {spec : Format} (s : Sign) (e : BitVec spec.exponentBits)
    (m : BitVec spec.mantissaBitsWithoutImplicit) :
    UnpackedFloat.unpack spec (packComponents spec (-s) e m) =
      (UnpackedFloat.unpack spec (packComponents spec s e m)).neg := by
  unfold UnpackedFloat.unpack
  simp only [unpackMantissa_packComponents, unpackExponent_packComponents,
    unpackSign_packComponents, Sign.ofBitVec_toBitVec]
  split
  · split <;> rfl
  · split
    · split <;> rfl
    · rfl

theorem unpack_pack_neg (u : UnpackedFloat) :
    (Float.Model.pack u.neg).unpack = (Float.Model.pack u).unpack.neg := by
  cases u with
  | notANumber => rfl
  | infinity s => exact unpack_packComponents_neg s _ _
  | zero s => exact unpack_packComponents_neg s _ _
  | finite s m e hm =>
    show UnpackedFloat.unpack _ (UnpackedFloat.pack _ (.finite (-s) m e hm)) =
      (UnpackedFloat.unpack _ (UnpackedFloat.pack _ (.finite s m e hm))).neg
    unfold UnpackedFloat.pack
    simp only
    split
    · exact unpack_packComponents_neg s _ _
    · split
      · exact unpack_packComponents_neg s _ _
      · exact unpack_packComponents_neg s _ _

/-! ## Arithmetic before rounding -/

theorem roundWithAccuracy_neg (spec : Format) (s : Sign) (m : Nat) (e : Int) (a : Accuracy) :
    roundWithAccuracy spec (-s) m e a = (roundWithAccuracy spec s m e a).neg := by
  unfold roundWithAccuracy
  simp only
  split <;> rfl

theorem round_neg (spec : Format) (s : Sign) (m : Nat) (e : Int) :
    UnpackedFloat.round spec (-s) m e = (UnpackedFloat.round spec s m e).neg :=
  roundWithAccuracy_neg spec s _ _ _

/-- A whole number of units with the other sign is rounded to the other sign, but zero is positive
either way. -/
theorem normalize_neg (spec : Format) (m : Int) (e : Int) :
    UnpackedFloat.normalize spec (-m) e .positive = UnpackedFloat.normalize spec m e .positive ∨
      UnpackedFloat.normalize spec (-m) e .positive =
        (UnpackedFloat.normalize spec m e .positive).neg := by
  rcases Int.lt_trichotomy m 0 with hm | rfl | hm
  · right
    have hneg : compare m 0 = .lt := Std.compare_eq_lt.2 hm
    have hpos : compare (-m) 0 = .gt := Std.compare_eq_gt.2 (by omega)
    unfold UnpackedFloat.normalize
    rw [hneg, hpos]
    exact round_neg spec .negative _ _
  · left
    rfl
  · right
    have hpos : compare m 0 = .gt := Std.compare_eq_gt.2 hm
    have hneg : compare (-m) 0 = .lt := Std.compare_eq_lt.2 (by omega)
    unfold UnpackedFloat.normalize
    rw [hpos, hneg, Int.neg_neg]
    exact round_neg spec .positive _ _

theorem add_comm_unpacked (spec : Format) (u v : UnpackedFloat) :
    UnpackedFloat.add spec u v = UnpackedFloat.add spec v u := by
  rcases u with s | _ | s | ⟨s, m, e, hm⟩ <;> rcases v with t | _ | t | ⟨t, n, f, hn⟩
  case infinity.infinity => cases s <;> cases t <;> rfl
  case zero.zero => cases s <;> cases t <;> rfl
  case finite.finite =>
    show normalize spec (s.apply (decreaseExponent m e (min e f)).1 +
        t.apply (decreaseExponent n f (min e f)).1) (min e f) .positive =
      normalize spec (t.apply (decreaseExponent n f (min f e)).1 +
        s.apply (decreaseExponent m e (min f e)).1) (min f e) .positive
    rw [Int.min_comm f e, Int.add_comm]
  all_goals rfl

/-- The difference the other way round has the other sign, or both are zero. -/
theorem sub_swap_unpacked (spec : Format) (u v : UnpackedFloat) :
    UnpackedFloat.sub spec v u = UnpackedFloat.sub spec u v ∨
      UnpackedFloat.sub spec v u = (UnpackedFloat.sub spec u v).neg := by
  rcases u with s | _ | s | ⟨s, m, e, hm⟩ <;> rcases v with t | _ | t | ⟨t, n, f, hn⟩
  case infinity.infinity => cases s <;> cases t <;> first | exact .inl rfl | exact .inr rfl
  case zero.zero => cases s <;> cases t <;> first | exact .inl rfl | exact .inr rfl
  case finite.finite =>
    have hswap := normalize_neg spec (s.apply (decreaseExponent m e (min e f)).1 -
      t.apply (decreaseExponent n f (min e f)).1) (min e f)
    rw [Int.neg_sub] at hswap
    have hback : UnpackedFloat.sub spec (.finite t n f hn) (.finite s m e hm) =
        normalize spec (t.apply (decreaseExponent n f (min e f)).1 -
          s.apply (decreaseExponent m e (min e f)).1) (min e f) .positive := by
      rw [Int.min_comm e f]
      rfl
    rw [hback]
    exact hswap
  case infinity.finite => cases s <;> exact .inr rfl
  case infinity.zero => cases s <;> exact .inr rfl
  case finite.infinity => cases t <;> exact .inr rfl
  case zero.infinity => cases t <;> exact .inr rfl
  case finite.zero => cases s <;> exact .inr rfl
  case zero.finite => cases t <;> exact .inr rfl
  all_goals exact .inl rfl

theorem mul_neg_unpacked (spec : Format) (u v : UnpackedFloat) :
    UnpackedFloat.mul spec u.neg v = (UnpackedFloat.mul spec u v).neg := by
  rcases u with s | _ | s | ⟨s, m, e, hm⟩ <;> rcases v with t | _ | t | ⟨t, n, f, hn⟩
  case finite.finite =>
    show roundWithAccuracy spec (-s * t) (m * n) (e + f) .exact = _
    rw [sign_neg_mul]
    exact roundWithAccuracy_neg spec _ _ _ _
  all_goals first | rfl | (cases s <;> cases t <;> rfl)

theorem mul_neg_neg_unpacked (spec : Format) (u : UnpackedFloat) :
    UnpackedFloat.mul spec u.neg u.neg = UnpackedFloat.mul spec u u := by
  rcases u with s | _ | s | ⟨s, m, e, hm⟩
  case finite =>
    show roundWithAccuracy spec (-s * -s) (m * m) (e + e) .exact = _
    rw [sign_neg_mul_neg]
    rfl
  all_goals first | rfl | (cases s <;> rfl)

/-! ## Doubles -/

/-- Equal, or the same but for the sign. -/
def Mirrored (x y : Float) : Prop := y = x ∨ y.toModel.unpack = x.toModel.unpack.neg

theorem float_add_comm (x y : Float) : x + y = y + x :=
  congrArg (fun u => Float.ofModel (.pack u)) (add_comm_unpacked _ _ _)

/-- What the results before packing have in common, the packed results have as well. -/
theorem mirrored_of_unpacked {u v : UnpackedFloat} (h : v = u ∨ v = u.neg) :
    Mirrored (.ofModel (.pack u)) (.ofModel (.pack v)) := by
  rcases h with rfl | rfl
  · exact .inl rfl
  · exact .inr (unpack_pack_neg u)

theorem mirrored_sub (x y : Float) : Mirrored (x - y) (y - x) :=
  mirrored_of_unpacked (sub_swap_unpacked _ _ _)

namespace Mirrored

variable {x y : Float}

theorem mul (h : Mirrored x y) (z : Float) : Mirrored (x * z) (y * z) := by
  rcases h with rfl | h
  · exact .inl rfl
  · refine mirrored_of_unpacked (.inr ?_)
    rw [h]
    exact mul_neg_unpacked _ _ _

theorem square (h : Mirrored x y) : y * y = x * x := by
  rcases h with rfl | h
  · rfl
  · show Float.ofModel (.pack (UnpackedFloat.mul _ y.toModel.unpack y.toModel.unpack)) = _
    rw [h, mul_neg_neg_unpacked]
    rfl

end Mirrored

/-- The distance from one point to another is the distance back. -/
theorem Coordinate.distance_comm (a b : Coordinate) : a.distance b = b.distance a := by
  have hnorth : Mirrored ((b.latitude - a.latitude) * metresPerDegree)
      ((a.latitude - b.latitude) * metresPerDegree) := (mirrored_sub _ _).mul _
  have heast : ∀ shrink, Mirrored ((b.longitude - a.longitude) * metresPerDegree * shrink)
      ((a.longitude - b.longitude) * metresPerDegree * shrink) :=
    fun shrink => ((mirrored_sub _ _).mul _).mul shrink
  unfold Coordinate.distance hypotenuse
  simp only
  rw [float_add_comm a.latitude b.latitude, hnorth.square, (heast _).square]

/-! ## One meridian -/

theorem mul_of_zero_unpacked (spec : Format) (u : UnpackedFloat) :
    UnpackedFloat.mul spec (.zero .positive) u ∈
      [.zero .positive, .zero .negative, .notANumber] := by
  rcases u with s | _ | s | ⟨s, m, e, hm⟩
  case infinity | notANumber => exact List.mem_cons_of_mem _ (List.mem_cons_of_mem _ (.head _))
  all_goals
    cases s with
    | positive => exact .head _
    | negative => exact List.mem_cons_of_mem _ (.head _)

/-- Zero times anything is a zero or not a number. -/
theorem zero_mul_mem (y : Float) : 0.0 * y ∈ [0.0, -0.0, 0.0 / 0.0] := by
  have hzeros : [.zero .positive, .zero .negative, .notANumber].map
      (fun u => Float.ofModel (.pack u)) = [0.0, -0.0, 0.0 / 0.0] := by decide +kernel
  have hzero : (0.0 : Float).toModel.unpack = .zero .positive := by rfl
  show Float.ofModel (.pack (UnpackedFloat.mul _ (0.0 : Float).toModel.unpack _)) ∈ _
  rw [hzero, ← hzeros]
  exact List.mem_map_of_mem (mul_of_zero_unpacked _ _)

theorem Coordinate.beyond_of_meridian {a b : Coordinate} {r : Float}
    (hmeridian : (a.longitude - b.longitude) * metresPerDegree = 0.0)
    (hbeyond : ∀ east ∈ [0.0, -0.0, 0.0 / 0.0],
      ¬hypotenuse east ((a.latitude - b.latitude) * metresPerDegree) ≤ r) :
    ¬a.distance b ≤ r := by
  unfold Coordinate.distance
  simp only
  rw [hmeridian]
  exact hbeyond _ (zero_mul_mem _)

end Multimodal
