/-! # Members listed by place

Given pairs of a place and a member, list for every place the members that were paired with it, in
the order of the pairs.  A member that comes twice in a row at one place is listed once.
-/

namespace Multimodal

/-- A member put in front, unless it is in front already. -/
def consNew (member : Nat) (members : List Nat) : List Nat :=
  if members.head? = some member then members else member :: members

/-- The members of each of the first `places` places; pairs for places beyond them are ignored. -/
def memberLists (places : Nat) (pairs : List (Nat × Nat)) : Array (List Nat) :=
  pairs.foldr (fun pair lists => lists.modify pair.1 (consNew pair.2)) (Array.replicate places [])

/-- There is one list for every place. -/
@[simp] theorem size_memberLists (places : Nat) (pairs : List (Nat × Nat)) :
    (memberLists places pairs).size = places := by
  induction pairs with
  | nil => simp [memberLists]
  | cons pair pairs ih => simpa [memberLists] using ih

theorem mem_consNew {member k : Nat} {members : List Nat} :
    k ∈ consNew member members ↔ k = member ∨ k ∈ members := by
  unfold consNew
  split
  · rename_i hfirst
    refine ⟨.inr, ?_⟩
    rintro (rfl | hk)
    · exact List.mem_of_head? hfirst
    · exact hk
  · exact List.mem_cons

/-- In front of an ascending list, looking at its first member is enough to see whether a member that
is not larger than the others is there already. -/
theorem pairwise_consNew {member : Nat} {members : List Nat} (h : members.Pairwise (· < ·))
    (hle : ∀ k ∈ members, member ≤ k) : (consNew member members).Pairwise (· < ·) := by
  unfold consNew
  split
  · exact h
  · rename_i hfirst
    refine List.pairwise_cons.2 ⟨fun k hk => ?_, h⟩
    cases members with
    | nil => cases hk
    | cons first rest =>
      have hne : first ≠ member := fun heq => hfirst (congrArg some heq)
      have hlt : member < first := Nat.lt_of_le_of_ne (hle first List.mem_cons_self) hne.symm
      rcases List.mem_cons.1 hk with rfl | hk
      · exact hlt
      · exact Nat.lt_trans hlt ((List.pairwise_cons.1 h).1 k hk)

/-- Where members come in ascending order, every place has the members that were paired with it, each
once and in ascending order. -/
theorem memberLists_exact {places : Nat} {pairs : List (Nat × Nat)}
    (hplaces : ∀ pair ∈ pairs, pair.1 < places) (h : pairs.Pairwise fun a b => a.2 ≤ b.2)
    (place : Nat) :
    (((memberLists places pairs)[place]?).getD []).Pairwise (· < ·) ∧
      ∀ k, k ∈ ((memberLists places pairs)[place]?).getD [] ↔ (place, k) ∈ pairs := by
  induction pairs with
  | nil =>
    have hnone : ((memberLists places [])[place]?).getD [] = [] := by
      unfold memberLists
      rw [List.foldr_nil, Array.getElem?_replicate]
      split <;> rfl
    rw [hnone]
    exact ⟨List.Pairwise.nil, fun k => by simp⟩
  | cons pair pairs ih =>
    obtain ⟨hfirst, hrest⟩ := List.pairwise_cons.1 h
    obtain ⟨hsorted, hmem⟩ := ih (fun p hp => hplaces p (List.mem_cons_of_mem _ hp)) hrest
    have hstep : ((memberLists places (pair :: pairs))[place]?).getD [] =
        if pair.1 = place then consNew pair.2 (((memberLists places pairs)[place]?).getD [])
        else ((memberLists places pairs)[place]?).getD [] := by
      show (((memberLists places pairs).modify pair.1 (consNew pair.2))[place]?).getD [] = _
      rw [Array.getElem?_modify]
      split
      · rename_i heq
        have hlt : place < (memberLists places pairs).size := by
          rw [size_memberLists, ← heq]
          exact hplaces pair List.mem_cons_self
        rw [Array.getElem?_eq_getElem hlt]
        rfl
      · rfl
    rw [hstep]
    split
    · rename_i heq
      refine ⟨pairwise_consNew hsorted fun k hk => ?_, fun k => ?_⟩
      · exact hfirst (place, k) ((hmem k).1 hk)
      · rw [mem_consNew, hmem, List.mem_cons, Prod.ext_iff]
        simp [heq]
    · rename_i hne
      refine ⟨hsorted, fun k => ?_⟩
      rw [hmem, List.mem_cons, or_iff_right]
      rintro heq
      exact hne (congrArg Prod.fst heq).symm

end Multimodal
