import Multimodal.Proofs.Digest.Tree

/-! # Hash trees level by level

Seen from its leaves, a hash tree is a sequence of levels.  A node stands over two neighbours of the
level below, or it is the last node below, which had no neighbour.  Because such a node is carried
up without being hashed, lists of different lengths can have the same top (a list and the level
above it always have); only the number of leaves, which is hashed with the top, tells them apart.

* `treeLevel`: the nodes so many levels above the leaves.
* `Folded`: how the levels and the root come from the leaves; `folded_iff`: there is only one way.
* `HashedFor`, `RootsCollide`: the byte strings that are hashed on the way, and two of them with one
  hash.
* `digestRoot_identifies_leaves`: leaves with the same root are equal, or their roots collide.
-/

namespace Multimodal

/-! ## Levels -/

/-- The nodes so many levels above the leaves. -/
def treeLevel (leaves : List ContentHash) : Nat → List ContentHash
  | 0 => leaves
  | k + 1 => joinPairs (treeLevel leaves k)

@[simp] theorem treeLevel_zero (leaves : List ContentHash) : treeLevel leaves 0 = leaves := rfl

/-- The levels over the level above the leaves are the levels over the leaves, one further up. -/
theorem treeLevel_joinPairs (leaves : List ContentHash) (k : Nat) :
    treeLevel (joinPairs leaves) k = treeLevel leaves (k + 1) := by
  induction k with
  | zero => rfl
  | succ k ih => exact congrArg joinPairs ih

/-- A node over the positions `2 * i` and `2 * i + 1` of the level below. -/
theorem getElem?_joinPairs : ∀ (hs : List ContentHash) (i : Nat),
    (joinPairs hs)[i]? =
      hs[2 * i]?.map fun left => hs[2 * i + 1]?.elim left (joinHashes left)
  | [], _ => rfl
  | [_], 0 => rfl
  | [_], _ + 1 => rfl
  | _ :: _ :: _, 0 => rfl
  | _ :: _ :: rest, i + 1 => getElem?_joinPairs rest i

/-- A list and the level above it have the same top. -/
theorem apex_joinPairs : ∀ hs : List ContentHash, apex (joinPairs hs) = apex hs
  | [] => rfl
  | [_] => rfl
  | a :: b :: rest => by
    conv_rhs => rw [apex]

theorem apex_treeLevel (leaves : List ContentHash) (k : Nat) :
    apex (treeLevel leaves k) = apex leaves := by
  induction k with
  | zero => rfl
  | succ k ih => exact (apex_joinPairs _).trans ih

/-- After `k` levels at most one of `2 ^ k` leaves is left. -/
theorem length_treeLevel_le_one {leaves : List ContentHash} {k : Nat}
    (h : leaves.length ≤ 2 ^ k) : (treeLevel leaves k).length ≤ 1 := by
  induction k generalizing leaves with
  | zero => simpa using h
  | succ k ih =>
    rw [← treeLevel_joinPairs]
    refine ih ?_
    rw [Nat.pow_succ] at h
    rw [length_joinPairs]
    omega

/-- A level with at most one node is the top. -/
theorem apex_eq_head? {hs : List ContentHash} (h : hs.length ≤ 1) : apex hs = hs.head? := by
  match hs with
  | [] => rw [apex, List.head?_nil]
  | [top] => rw [apex, List.head?_cons]
  | _ :: _ :: _ => simp at h

theorem head?_treeLevel {leaves : List ContentHash} {k : Nat} (h : leaves.length ≤ 2 ^ k) :
    (treeLevel leaves k).head? = apex leaves := by
  rw [← apex_eq_head? (length_treeLevel_le_one h), apex_treeLevel]

/-- How a root comes from its leaves: neighbours are hashed together level by level, a node without
a right neighbour is carried up unchanged, and when one node is left, or none, the root is the hash
of the number of leaves followed by that node, or by zeros. -/
structure Folded (leaves : List ContentHash) (level : Nat → List ContentHash)
    (root : ContentHash) : Prop where
  bottom : level 0 = leaves
  halved : ∀ k, (level (k + 1)).length = ((level k).length + 1) / 2
  paired : ∀ (k i : Nat) (left right : ContentHash),
    (level k)[2 * i]? = some left → (level k)[2 * i + 1]? = some right →
      (level (k + 1))[i]? = some (ContentHash.ofBytes (left.toList ++ right.toList))
  carried : ∀ (k i : Nat) (last : ContentHash),
    (level k)[2 * i]? = some last → (level k)[2 * i + 1]? = none →
      (level (k + 1))[i]? = some last
  framed : ∀ k, leaves.length ≤ 2 ^ k → root = ContentHash.ofBytes
    (littleEndian 8 leaves.length ++ ((level k).head?.getD ContentHash.zero).toList)

theorem folded_digestRoot (leaves : List ContentHash) :
    Folded leaves (treeLevel leaves) (digestRoot leaves) where
  bottom := rfl
  halved k := length_joinPairs (treeLevel leaves k)
  paired k i left right hleft hright := by
    rw [treeLevel, getElem?_joinPairs, hleft, hright]
    rfl
  carried k i last hlast hnone := by
    rw [treeLevel, getElem?_joinPairs, hlast, hnone]
    rfl
  framed k hk := by
    rw [head?_treeLevel hk]
    rfl

theorem Folded.level_succ {leaves : List ContentHash} {level : Nat → List ContentHash}
    {root : ContentHash} (h : Folded leaves level root) (k : Nat) :
    level (k + 1) = joinPairs (level k) := by
  refine List.ext_getElem? fun i => ?_
  rw [getElem?_joinPairs]
  cases hleft : (level k)[2 * i]? with
  | none =>
    rw [List.getElem?_eq_none_iff] at hleft
    rw [Option.map_none, List.getElem?_eq_none_iff, h.halved]
    omega
  | some left =>
    cases hright : (level k)[2 * i + 1]? with
    | none => exact h.carried k i left hleft hright
    | some right => exact h.paired k i left right hleft hright

theorem Folded.level_eq {leaves : List ContentHash} {level : Nat → List ContentHash}
    {root : ContentHash} (h : Folded leaves level root) : level = treeLevel leaves := by
  funext k
  induction k with
  | zero => exact h.bottom
  | succ k ih => rw [h.level_succ, ih, treeLevel]

/-- Every list of leaves is folded in one way only. -/
theorem folded_iff {leaves : List ContentHash} {level : Nat → List ContentHash}
    {root : ContentHash} :
    Folded leaves level root ↔ level = treeLevel leaves ∧ root = digestRoot leaves := by
  constructor
  · intro h
    have hlevel := h.level_eq
    -- Any height at which at most one node is left will do.
    have henough : leaves.length ≤ 2 ^ leaves.length := Nat.lt_two_pow_self.le
    refine ⟨hlevel, ?_⟩
    rw [h.framed _ henough, (folded_digestRoot leaves).framed _ henough, hlevel]
  · rintro ⟨rfl, rfl⟩
    exact folded_digestRoot leaves

/-! ## What is hashed -/

/-- The byte strings that are hashed for the root over some leaves: two neighbours of a level, and
the framed top. -/
inductive HashedFor (leaves : List ContentHash) : List UInt8 → Prop
  | pair (k i : Nat) (left right : ContentHash) (hleft : (treeLevel leaves k)[2 * i]? = some left)
    (hright : (treeLevel leaves k)[2 * i + 1]? = some right) :
    HashedFor leaves (left.toList ++ right.toList)
  | framed : HashedFor leaves (rootBytes leaves)

theorem mem_pairInputs : ∀ (hs : List ContentHash) (x : List UInt8), x ∈ pairInputs hs ↔
    ∃ (i : Nat) (left right : ContentHash), hs[2 * i]? = some left ∧ hs[2 * i + 1]? = some right ∧
      x = left.toList ++ right.toList
  | [], x => by simp [pairInputs]
  | [_], x => by simp [pairInputs]
  | a :: b :: rest, x => by
    rw [pairInputs, List.mem_cons, mem_pairInputs rest x]
    constructor
    · rintro (rfl | ⟨i, left, right, hleft, hright, rfl⟩)
      · exact ⟨0, a, b, rfl, rfl, rfl⟩
      · exact ⟨i + 1, left, right, hleft, hright, rfl⟩
    · rintro ⟨_ | i, left, right, hleft, hright, rfl⟩
      · cases hleft
        cases hright
        exact .inl rfl
      · exact .inr ⟨i, left, right, hleft, hright, rfl⟩

/-- Nothing is hashed above a level that has at most one node. -/
theorem pairInputs_treeLevel_of_short {hs : List ContentHash} (h : hs.length ≤ 1) (k : Nat) :
    pairInputs (treeLevel hs k) = [] := by
  have hshort : (treeLevel hs k).length ≤ 1 :=
    length_treeLevel_le_one (h.trans Nat.one_le_two_pow)
  match hlevel : treeLevel hs k with
  | [] => rfl
  | [_] => rfl
  | _ :: _ :: _ => simp [hlevel] at hshort

theorem mem_apexInputs {leaves : List ContentHash} {x : List UInt8} :
    x ∈ apexInputs leaves ↔ ∃ k, x ∈ pairInputs (treeLevel leaves k) := by
  induction leaves using apexInputs.induct with
  | case1 => simp [apexInputs, pairInputs_treeLevel_of_short]
  | case2 top => simp [apexInputs, pairInputs_treeLevel_of_short]
  | case3 a b rest ih =>
    rw [apexInputs, List.mem_append, ih]
    -- This step hashes the pairs of level 0; the rest is hashed for the levels above it.
    simp only [treeLevel_joinPairs]
    constructor
    · rintro (hx | ⟨k, hx⟩)
      · exact ⟨0, hx⟩
      · exact ⟨k + 1, hx⟩
    · rintro ⟨_ | k, hx⟩
      · exact .inl hx
      · exact .inr ⟨k, hx⟩

/-- The inputs collected along the recursion are those that the levels show. -/
theorem mem_digestInputs {leaves : List ContentHash} {x : List UInt8} :
    x ∈ digestInputs leaves ↔ HashedFor leaves x := by
  rw [digestInputs, List.mem_cons, mem_apexInputs]
  simp only [mem_pairInputs]
  constructor
  · rintro (rfl | ⟨k, i, left, right, hleft, hright, rfl⟩)
    · exact .framed
    · exact .pair k i left right hleft hright
  · rintro (⟨k, i, left, right, hleft, hright⟩ | _)
    · exact .inr ⟨k, i, left, right, hleft, hright, rfl⟩
    · exact .inl rfl

/-- Two different byte strings, one hashed for the root over either list, have the same hash. -/
def RootsCollide (xs ys : List ContentHash) : Prop :=
  ∃ x y, HashedFor xs x ∧ HashedFor ys y ∧ x ≠ y ∧ Blake3.hash x = Blake3.hash y

theorem rootsCollide_iff {xs ys : List ContentHash} :
    RootsCollide xs ys ↔ Collide (digestInputs xs) (digestInputs ys) := by
  unfold RootsCollide Collide
  simp only [mem_digestInputs]
  constructor
  · rintro ⟨x, y, hx, hy, hne⟩
    exact ⟨x, hx, y, hy, hne⟩
  · rintro ⟨x, hx, y, hy, hne⟩
    exact ⟨x, y, hx, hy, hne⟩

/-! ## Roots -/

/-- The root is what comes of pairing neighbours level by level, carrying up a node without a
neighbour, and framing the number of leaves.  Lists of fewer than `2 ^ 64` leaves with the same root
are equal, or two different byte strings that were hashed for the roots have the same hash. -/
theorem digestRoot_identifies_leaves :
    (∀ leaves level root,
      Folded leaves level root ↔ level = treeLevel leaves ∧ root = digestRoot leaves) ∧
      ∀ xs ys : List ContentHash, xs.length < 2 ^ 64 → ys.length < 2 ^ 64 →
        digestRoot xs = digestRoot ys → xs = ys ∨ RootsCollide xs ys := by
  refine ⟨fun leaves level root => folded_iff, fun xs ys hxs hys hroot => ?_⟩
  exact (digestRoot_inj hxs hys hroot).imp_right rootsCollide_iff.2

namespace Sample

/-- Three leaves: the last one has no neighbour. -/
def threeLeaves : List ContentHash := [.ofText "a", .ofText "b", .ofText "c"]

/-- The nodes above three leaves, as leaves of their own. -/
def twoNodes : List ContentHash := [joinHashes (.ofText "a") (.ofText "b"), .ofText "c"]

/-- The nodes above three leaves have the same top as the leaves, but the same root only if two byte
strings have the same hash.  They have the same root as the first level, and they are that level. -/
theorem twoNodes_identified :
    (twoNodes.length < 2 ^ 64 ∧ threeLeaves.length < 2 ^ 64 ∧ apex twoNodes = apex threeLeaves ∧
      (digestRoot twoNodes = digestRoot threeLeaves → RootsCollide twoNodes threeLeaves)) ∧
      digestRoot twoNodes = digestRoot (treeLevel threeLeaves 1) ∧
        (twoNodes = treeLevel threeLeaves 1 ∨ RootsCollide twoNodes (treeLevel threeLeaves 1)) := by
  have htwo : twoNodes.length < 2 ^ 64 := show 2 < 2 ^ 64 by decide
  have hthree : threeLeaves.length < 2 ^ 64 := show 3 < 2 ^ 64 by decide
  refine ⟨⟨htwo, hthree, apex_treeLevel threeLeaves 1, fun hroot => ?_⟩, rfl, ?_⟩
  · refine (digestRoot_identifies_leaves.2 _ _ htwo hthree hroot).resolve_left fun hsame => ?_
    exact absurd (congrArg List.length hsame) (show 2 ≠ 3 by decide)
  · exact digestRoot_identifies_leaves.2 twoNodes (treeLevel threeLeaves 1) htwo htwo rfl

end Sample

/-- No leaf and one leaf of zeros differ in their roots, because their number is hashed too. -/
example : digestRoot [] ≠ digestRoot [ContentHash.zero] := by decide +kernel

end Multimodal
