import Multimodal.Digest.Content

/-! # Hash trees

An ordered list of hashes is folded into one.  Neighbours are joined level by level and a node
without a partner moves up as it is.  The number of leaves is hashed together with the top of the
tree, so that no leaf and a leaf of zeros differ.

* `joinPairs`: one level up.
* `apex`: the top of the tree, if there is a leaf.
* `digestRoot`: the hash of the whole list.
-/

namespace Multimodal

/-- The hash of two neighbours. -/
def joinHashes (left right : ContentHash) : ContentHash :=
  ContentHash.ofBytes (left.toList ++ right.toList)

/-- The next level of the tree. -/
def joinPairs : List ContentHash → List ContentHash
  | left :: right :: rest => joinHashes left right :: joinPairs rest
  | short => short

theorem length_joinPairs : ∀ hs : List ContentHash, (joinPairs hs).length = (hs.length + 1) / 2
  | [] => rfl
  | [_] => by simp [joinPairs]
  | _ :: _ :: rest => by
    simp only [joinPairs, List.length_cons, length_joinPairs rest]
    omega

/-- The top of the tree over the leaves. -/
def apex : List ContentHash → Option ContentHash
  | [] => none
  | [h] => some h
  | a :: b :: rest => apex (joinPairs (a :: b :: rest))
termination_by hs => hs.length
decreasing_by
  simp only [length_joinPairs, List.length_cons]
  omega

/-- The bytes whose hash stands for the list: the number of leaves, then the top of the tree. -/
def rootBytes (leaves : List ContentHash) : List UInt8 :=
  littleEndian 8 leaves.length ++ ((apex leaves).getD ContentHash.zero).toList

/-- The hash of an ordered list of hashes. -/
def digestRoot (leaves : List ContentHash) : ContentHash := ContentHash.ofBytes (rootBytes leaves)

end Multimodal
