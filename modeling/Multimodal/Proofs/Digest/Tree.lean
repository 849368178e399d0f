import Multimodal.Digest.Tree
import Multimodal.Proofs.Digest.Encoding

/-! # A hash tree identifies its leaves

Two lists of hashes with the same root are equal, or two different byte strings that were hashed on
the way have the same hash.

* `Collide`: two different byte strings, one from either list, with one hash.
* `pairInputs`, `apexInputs`, `digestInputs`: what is hashed for one level, the tree, and the root.
* `digestRoot_inj`: equal roots.
-/

namespace Multimodal

/-! ## Collisions -/

/-- Some byte string of the first list and a different one of the second have the same hash. -/
def Collide (xs ys : List (List UInt8)) : Prop :=
  ∃ x ∈ xs, ∃ y ∈ ys, x ≠ y ∧ Blake3.hash x = Blake3.hash y

theorem Collide.mono {xs ys xs' ys' : List (List UInt8)} (h : Collide xs ys) (hxs : xs ⊆ xs')
    (hys : ys ⊆ ys') : Collide xs' ys' := by
  obtain ⟨x, hx, y, hy, hne, hhash⟩ := h
  exact ⟨x, hxs hx, y, hys hy, hne, hhash⟩

theorem Collide.of_mem {x y : List UInt8} {xs ys : List (List UInt8)} (h : Collide [x] [y])
    (hx : x ∈ xs) (hy : y ∈ ys) : Collide xs ys :=
  h.mono (List.cons_subset.2 ⟨hx, List.nil_subset _⟩) (List.cons_subset.2 ⟨hy, List.nil_subset _⟩)

/-- Byte strings with the same hash are equal or collide. -/
theorem ofBytes_inj {x y : List UInt8} (h : ContentHash.ofBytes x = ContentHash.ofBytes y) :
    x = y ∨ Collide [x] [y] := by
  by_cases hxy : x = y
  · exact .inl hxy
  · exact .inr ⟨x, List.mem_singleton_self x, y, List.mem_singleton_self y, hxy,
      ContentHash.mk.inj h⟩

theorem toList_inj {h k : ContentHash} (heq : h.toList = k.toList) : h = k := by
  obtain ⟨bytes⟩ := h
  obtain ⟨bytes'⟩ := k
  exact congrArg ContentHash.mk (Vector.toList_inj.1 heq)

/-! ## Levels -/

/-- The byte strings that one level of the tree hashes. -/
def pairInputs : List ContentHash → List (List UInt8)
  | left :: right :: rest => (left.toList ++ right.toList) :: pairInputs rest
  | _ => []

/-- Two equally long levels with the same next level are equal or collide. -/
theorem joinPairs_inj : ∀ {xs ys : List ContentHash}, xs.length = ys.length →
    joinPairs xs = joinPairs ys → xs = ys ∨ Collide (pairInputs xs) (pairInputs ys)
  | [], [], _, _ => .inl rfl
  | [_], [_], _, h => .inl h
  | [], _ :: _, hlength, _ => by cases hlength
  | _ :: _, [], hlength, _ => by cases hlength
  | [_], _ :: _ :: _, hlength, _ => by simp at hlength
  | _ :: _ :: _, [_], hlength, _ => by simp at hlength
  | a :: b :: xs, c :: d :: ys, hlength, h => by
    have hrest : xs.length = ys.length := by
      simp only [List.length_cons] at hlength
      omega
    obtain ⟨hfirst, hothers⟩ := List.cons.inj h
    rcases ofBytes_inj hfirst with hpair | hcollide
    · obtain ⟨hleft, hright⟩ := List.append_inj hpair (by simp)
      rcases joinPairs_inj hrest hothers with hxy | hcollide
      · left
        rw [toList_inj hleft, toList_inj hright, hxy]
      · right
        exact hcollide.mono (List.subset_cons_self _ _) (List.subset_cons_self _ _)
    · right
      exact hcollide.of_mem List.mem_cons_self List.mem_cons_self

/-- The byte strings that all levels of the tree hash. -/
def apexInputs : List ContentHash → List (List UInt8)
  | [] => []
  | [_] => []
  | a :: b :: rest => pairInputs (a :: b :: rest) ++ apexInputs (joinPairs (a :: b :: rest))
termination_by hs => hs.length
decreasing_by
  simp only [length_joinPairs, List.length_cons]
  omega

/-- Two equally long lists of leaves with the same top are equal or collide. -/
theorem apex_inj {xs ys : List ContentHash} (hlength : xs.length = ys.length)
    (h : apex xs = apex ys) : xs = ys ∨ Collide (apexInputs xs) (apexInputs ys) := by
  induction hn : xs.length using Nat.strongRecOn generalizing xs ys with
  | ind n ih =>
    match xs, ys with
    | [], [] => exact .inl rfl
    | [x], [y] =>
      unfold apex at h
      exact .inl (congrArg (fun h => [h]) (Option.some.inj h))
    | [], _ :: _ => cases hlength
    | _ :: _, [] => cases hlength
    | [_], _ :: _ :: _ => simp at hlength
    | _ :: _ :: _, [_] => simp at hlength
    | a :: b :: xs, c :: d :: ys =>
      have hsmaller : (joinPairs (a :: b :: xs)).length < n := by
        rw [length_joinPairs, ← hn]
        simp only [List.length_cons]
        omega
      have hlevels : (joinPairs (a :: b :: xs)).length = (joinPairs (c :: d :: ys)).length := by
        rw [length_joinPairs, length_joinPairs, hlength]
      rw [apex, apex] at h
      rw [apexInputs, apexInputs]
      rcases ih _ hsmaller hlevels h rfl with hnext | hcollide
      · rcases joinPairs_inj hlength hnext with hxy | hcollide
        · exact .inl hxy
        · exact .inr (hcollide.mono (List.subset_append_left _ _) (List.subset_append_left _ _))
      · exact .inr (hcollide.mono (List.subset_append_right _ _) (List.subset_append_right _ _))

/-! ## Roots -/

/-- The byte strings that are hashed for the root over some leaves. -/
def digestInputs (leaves : List ContentHash) : List (List UInt8) :=
  rootBytes leaves :: apexInputs leaves

theorem apex_ne_none {hs : List ContentHash} (h : hs ≠ []) : ∃ top, apex hs = some top := by
  induction hn : hs.length using Nat.strongRecOn generalizing hs with
  | ind n ih =>
    match hs with
    | [] => exact absurd rfl h
    | [top] => exact ⟨top, by rw [apex]⟩
    | a :: b :: rest =>
      have hsmaller : (joinPairs (a :: b :: rest)).length < n := by
        rw [length_joinPairs, ← hn]
        simp only [List.length_cons]
        omega
      rw [apex]
      exact ih _ hsmaller (List.cons_ne_nil _ _) rfl

/-- Lists of leaves with the same framed top are equal or collide below it. -/
theorem rootBytes_inj {xs ys : List ContentHash} (hxs : xs.length < 2 ^ 64)
    (hys : ys.length < 2 ^ 64) (h : rootBytes xs = rootBytes ys) :
    xs = ys ∨ Collide (apexInputs xs) (apexInputs ys) := by
  obtain ⟨hcount, htop⟩ := List.append_inj h (by simp)
  have hlength : xs.length = ys.length := littleEndian_inj hxs hys hcount
  refine apex_inj hlength ?_
  by_cases hempty : xs = []
  · subst hempty
    rw [(List.length_eq_zero_iff.1 hlength.symm)]
  · have hempty' : ys ≠ [] := by
      intro hys
      rw [hys] at hlength
      exact hempty (List.length_eq_zero_iff.1 hlength)
    obtain ⟨top, hx⟩ := apex_ne_none hempty
    obtain ⟨top', hy⟩ := apex_ne_none hempty'
    rw [hx, hy] at htop ⊢
    exact congrArg some (toList_inj htop)

/-- Lists of leaves with the same root are equal, or two different byte strings that were hashed for
the roots have the same hash. -/
theorem digestRoot_inj {xs ys : List ContentHash} (hxs : xs.length < 2 ^ 64)
    (hys : ys.length < 2 ^ 64) (h : digestRoot xs = digestRoot ys) :
    xs = ys ∨ Collide (digestInputs xs) (digestInputs ys) := by
  rcases ofBytes_inj h with hbytes | hcollide
  · refine (rootBytes_inj hxs hys hbytes).imp_right fun hcollide => ?_
    exact hcollide.mono (List.subset_cons_self _ _) (List.subset_cons_self _ _)
  · right
    exact hcollide.of_mem List.mem_cons_self List.mem_cons_self

end Multimodal
