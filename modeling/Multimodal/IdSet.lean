/-! # Finite sets of indices

A set of natural numbers is the list of its members in ascending order, so two sets with the same
members are equal.

* `IdSet`: the sets; `insert`, `ofList` and `union` build them.
* `IdSet.mem_insert`, `IdSet.ext`: what they hold decides what they are.
-/

namespace Multimodal

/-- A number put into its place in an ascending list, unless it is there. -/
def insertAscending (n : Nat) : List Nat → List Nat
  | [] => [n]
  | m :: rest =>
    if n < m then n :: m :: rest
    else if n = m then m :: rest
    else m :: insertAscending n rest

theorem mem_insertAscending {n k : Nat} {ms : List Nat} :
    k ∈ insertAscending n ms ↔ k = n ∨ k ∈ ms := by
  induction ms with
  | nil => simp [insertAscending]
  | cons m rest ih => grind [insertAscending]

theorem pairwise_insertAscending {n : Nat} {ms : List Nat} (h : ms.Pairwise (· < ·)) :
    (insertAscending n ms).Pairwise (· < ·) := by
  induction ms with
  | nil => simp [insertAscending]
  | cons m rest ih =>
    have hrest := ih (List.pairwise_cons.1 h).2
    have hm := (List.pairwise_cons.1 h).1
    rw [insertAscending]
    split
    · refine List.pairwise_cons.2 ⟨fun k hk => ?_, h⟩
      rcases List.mem_cons.1 hk with rfl | hk
      · assumption
      · have := hm k hk
        omega
    · split
      · exact h
      · refine List.pairwise_cons.2 ⟨fun k hk => ?_, hrest⟩
        rcases mem_insertAscending.1 hk with rfl | hk
        · omega
        · exact hm k hk

/-- A finite set of indices. -/
structure IdSet where
  toList : List Nat
  ascending : toList.Pairwise (· < ·)
  deriving DecidableEq

namespace IdSet

/-- No index. -/
def empty : IdSet := ⟨[], List.Pairwise.nil⟩

instance : EmptyCollection IdSet := ⟨empty⟩
instance : Inhabited IdSet := ⟨empty⟩
instance : Membership Nat IdSet := ⟨fun s n => n ∈ s.toList⟩

theorem mem_iff {s : IdSet} {n : Nat} : n ∈ s ↔ n ∈ s.toList := Iff.rfl

instance (n : Nat) (s : IdSet) : Decidable (n ∈ s) := inferInstanceAs (Decidable (n ∈ s.toList))

/-- The set with one more index. -/
def insert (s : IdSet) (n : Nat) : IdSet :=
  ⟨insertAscending n s.toList, pairwise_insertAscending s.ascending⟩

/-- The set of the listed indices. -/
def ofList (ns : List Nat) : IdSet := ns.foldl insert empty

/-- What is in one of two sets. -/
def union (s t : IdSet) : IdSet := t.toList.foldl insert s

/-- Whether there is no index. -/
def isEmpty (s : IdSet) : Bool := s.toList.isEmpty

/-- The number of indices. -/
def size (s : IdSet) : Nat := s.toList.length

/-! ## Members -/

@[simp] theorem not_mem_empty (n : Nat) : n ∉ (empty : IdSet) := List.not_mem_nil

@[simp] theorem mem_insert {s : IdSet} {n k : Nat} : k ∈ s.insert n ↔ k = n ∨ k ∈ s :=
  mem_insertAscending

theorem mem_foldl_insert {ns : List Nat} {s : IdSet} {k : Nat} :
    k ∈ ns.foldl insert s ↔ k ∈ s ∨ k ∈ ns := by
  induction ns generalizing s with
  | nil => simp
  | cons n ns ih => grind [mem_insert]

@[simp] theorem mem_union {s t : IdSet} {k : Nat} : k ∈ s.union t ↔ k ∈ s ∨ k ∈ t :=
  mem_foldl_insert

@[simp] theorem mem_ofList {ns : List Nat} {k : Nat} : k ∈ ofList ns ↔ k ∈ ns := by
  simp [ofList, mem_foldl_insert]

/-- Ascending lists with the same members are equal. -/
theorem eq_of_ascending {ms ns : List Nat} (hm : ms.Pairwise (· < ·)) (hn : ns.Pairwise (· < ·))
    (h : ∀ k, k ∈ ms ↔ k ∈ ns) : ms = ns := by
  induction ms generalizing ns with
  | nil => exact (List.eq_nil_iff_forall_not_mem.2 fun k hk => by simpa using (h k).2 hk).symm
  | cons m ms ih =>
    cases ns with
    | nil => simpa using (h m).1 (by simp)
    | cons n ns =>
      rw [List.pairwise_cons] at hm hn
      have hfirst : m = n := by
        rcases List.mem_cons.1 ((h m).1 (by simp)) with hmn | hmn
        · exact hmn
        · rcases List.mem_cons.1 ((h n).2 (by simp)) with hnm | hnm
          · exact hnm.symm
          · exact absurd (hm.1 n hnm) (Nat.lt_asymm (hn.1 m hmn))
      subst hfirst
      refine congrArg (m :: ·) (ih hm.2 hn.2 fun k => ?_)
      have hk := h k
      simp only [List.mem_cons] at hk
      constructor
      · intro hkm
        rcases hk.1 (.inr hkm) with rfl | hkn
        · exact absurd (hm.1 k hkm) (Nat.lt_irrefl k)
        · exact hkn
      · intro hkn
        rcases hk.2 (.inr hkn) with rfl | hkm
        · exact absurd (hn.1 k hkn) (Nat.lt_irrefl k)
        · exact hkm

/-- Sets with the same members are equal. -/
@[ext] theorem ext {s t : IdSet} (h : ∀ k, k ∈ s ↔ k ∈ t) : s = t := by
  obtain ⟨ms, hm⟩ := s
  obtain ⟨ns, hn⟩ := t
  have : ms = ns := eq_of_ascending hm hn h
  subst this
  rfl

end IdSet

end Multimodal
