import Mathlib
import Multimodal.Proofs.Digest.Encoding
import Multimodal.Scenario.Feeds

/-! # Which difference between feeds is reported

The feeds of a scenario are looked up in the network and not the other way round.  By then both have
the same number of feeds, so a network that has every feed of the scenario has no others.  Of several
differences the one with the lowest name is met first, and names are in the order of their bytes.

* `utf8Bytes_lt_iff`: texts compare like their bytes.
* `FeedTable.eq_of_get?`, `FeedTable.eq_of_entries_subset`: a table from its answers, and by counting.
* `FeedTable.FirstDifference`: the feed that is reported.
* `verifyFeeds_by_case`: what a comparison answers, for any two tables.
-/

namespace Multimodal

/-! ## The order of names -/

theorem toNat_val_lt (c : Char) : c.val.toNat < 0x110000 := by
  have hvalid : c.val.toNat < 0xd800 ∨ 0xdfff < c.val.toNat ∧ c.val.toNat < 0x110000 := c.valid
  omega

/-- Of two characters the lower one has the lower bytes, whatever follows: with as many bytes the first
that differs decides, and else the first byte of all. -/
theorem utf8EncodeChar_append_lt {c d : Char} (h : c < d) (xs ys : List UInt8) :
    String.utf8EncodeChar c ++ xs < String.utf8EncodeChar d ++ ys := by
  have hlt : c.val.toNat < d.val.toNat := h
  have hmax := toNat_val_lt d
  unfold String.utf8EncodeChar
  generalize c.val.toNat = v at *
  generalize d.val.toNat = w at *
  simp only
  split_ifs <;>
    simp (disch := omega) only [List.cons_append, List.nil_append, List.cons_lt_cons_iff,
      UInt8.lt_iff_toNat_lt, ← UInt8.toNat_inj, UInt8.toNat_ofNat', Nat.reducePow,
      Nat.mod_eq_of_lt] <;>
    omega

theorem flatMap_utf8EncodeChar_lt {cs ds : List Char} (h : cs < ds) :
    cs.flatMap String.utf8EncodeChar < ds.flatMap String.utf8EncodeChar := by
  induction cs generalizing ds with
  | nil =>
    cases ds with
    | nil => exact absurd h (List.not_lt_nil [])
    | cons d ds =>
      have hsome : String.utf8EncodeChar d ≠ [] := by
        intro hnil
        have hsize := String.length_utf8EncodeChar d
        rw [hnil] at hsize
        exact absurd hsize.symm (Nat.ne_of_gt d.utf8Size_pos)
      obtain ⟨b, bs, hbytes⟩ := List.exists_cons_of_ne_nil hsome
      rw [List.flatMap_nil, List.flatMap_cons, hbytes]
      exact List.nil_lt_cons b _
  | cons c cs ih =>
    cases ds with
    | nil => exact absurd h (List.not_lt_nil (c :: cs))
    | cons d ds =>
      rw [List.flatMap_cons, List.flatMap_cons]
      rcases List.cons_lt_cons_iff.1 h with hlt | ⟨rfl, hrest⟩
      · exact utf8EncodeChar_append_lt hlt _ _
      · exact List.append_left_lt (ih hrest)

theorem utf8Bytes_eq_flatMap (s : String) : utf8Bytes s = s.toList.flatMap String.utf8EncodeChar := by
  have hbytes : s.toUTF8 = (s.toList.flatMap String.utf8EncodeChar).toByteArray :=
    String.utf8Encode_toList.symm
  unfold utf8Bytes
  rw [hbytes, toList_eq_data, List.data_toByteArray]

theorem utf8Bytes_lt {s t : String} (h : s < t) : utf8Bytes s < utf8Bytes t := by
  rw [utf8Bytes_eq_flatMap, utf8Bytes_eq_flatMap]
  exact flatMap_utf8EncodeChar_lt h

/-- Texts are in the order of their bytes. -/
theorem utf8Bytes_lt_iff {s t : String} : utf8Bytes s < utf8Bytes t ↔ s < t := by
  refine ⟨fun h => ?_, utf8Bytes_lt⟩
  by_contra hno
  by_cases hsame : s = t
  · rw [hsame] at h
    exact List.lt_irrefl _ h
  · have hgt : t < s :=
      by_contra fun hle => hsame (String.le_antisymm (String.not_lt.1 hle) (String.not_lt.1 hno))
    exact List.lt_asymm h (utf8Bytes_lt hgt)

/-! ## Tables and what they answer -/

namespace FeedTable

variable {t u : FeedTable}

theorem isEmpty_iff : t.isEmpty = true ↔ t = {} := by
  unfold isEmpty
  rw [List.isEmpty_iff]
  exact ⟨fun h => eq_of_entries h, fun h => congrArg entries h⟩

theorem mem_entries_iff {feed : String} {checksum : UInt64} :
    (feed, checksum) ∈ t.entries ↔ t.get? feed = some checksum := by
  unfold get?
  rw [List.lookup_eq_some_iff]
  constructor
  · intro h
    obtain ⟨before, after, hentries⟩ := List.append_of_mem h
    refine ⟨before, after, hentries, fun e he => ?_⟩
    have hlt : e.1 < feed := by
      have hascending := t.ascending
      rw [hentries, List.pairwise_append] at hascending
      exact hascending.2.2 e he _ List.mem_cons_self
    exact bne_iff_ne.2 (String.ne_of_lt hlt).symm
  · rintro ⟨before, after, hentries, -⟩
    rw [hentries]
    exact List.mem_append_right before List.mem_cons_self

theorem nodup_entries (t : FeedTable) : t.entries.Nodup :=
  t.ascending.imp fun hlt heq => String.ne_of_lt hlt (congrArg Prod.fst heq)

/-- The order of the entries is no choice. -/
theorem eq_of_perm (h : t.entries.Perm u.entries) : t = u := by
  refine eq_of_entries (h.eq_of_pairwise (fun a b _ _ hab hba => ?_) t.ascending u.ascending)
  exact absurd hba (String.lt_asymm hab)

/-- Tables with the same answers are the same. -/
theorem eq_of_get? (h : ∀ feed, t.get? feed = u.get? feed) : t = u := by
  refine eq_of_perm ((List.perm_ext_iff_of_nodup t.nodup_entries u.nodup_entries).2 ?_)
  rintro ⟨feed, checksum⟩
  rw [mem_entries_iff, mem_entries_iff, h]

/-- A table in a table that is no larger is all of it. -/
theorem eq_of_entries_subset (h : t.entries ⊆ u.entries) (hsize : u.size ≤ t.size) : t = u :=
  eq_of_perm ((List.subperm_of_subset t.nodup_entries h).perm_of_length_le hsize)

/-- Of the feeds of the first table with another checksum in the second, or none, this one has the
lowest name. -/
structure FirstDifference (t u : FeedTable) (feed : String) : Prop where
  listed : (t.get? feed).isSome = true
  differs : u.get? feed ≠ t.get? feed
  first : ∀ other, utf8Bytes other < utf8Bytes feed → (t.get? other).isSome = true →
    u.get? other = t.get? other

end FeedTable

/-! ## The comparison -/

section Comparison

variable {s n : FeedTable}

theorem feedMismatch?_eq_none_iff {e : FeedEntry} : feedMismatch? n e = none ↔ e ∈ n.entries := by
  rw [← Prod.mk.eta (p := e), FeedTable.mem_entries_iff]
  unfold feedMismatch?
  cases n.get? e.1 with
  | none => simp
  | some checksum => simp

/-- With as many feeds on both sides, nothing is reported exactly if the tables are the same. -/
theorem findSome?_feedMismatch? (hsize : s.size = n.size) :
    s.entries.findSome? (feedMismatch? n) = none ↔ s = n := by
  rw [List.findSome?_eq_none_iff]
  constructor
  · intro h
    refine FeedTable.eq_of_entries_subset (fun e he => ?_) hsize.ge
    exact feedMismatch?_eq_none_iff.1 (h e he)
  · rintro rfl e he
    exact feedMismatch?_eq_none_iff.2 he

/-- Entries are met in the order of their names, so the first that is reported is the lowest. -/
theorem firstDifference_of_findSome? {mismatch : FeedMismatch}
    (h : s.entries.findSome? (feedMismatch? n) = some mismatch) :
    ∃ feed checksum, s.FirstDifference n feed ∧ s.get? feed = some checksum ∧
      feedMismatch? n (feed, checksum) = some mismatch := by
  obtain ⟨before, ⟨feed, checksum⟩, after, hentries, hmismatch, hbefore⟩ :=
    List.findSome?_eq_some_iff.1 h
  have hlisted : s.get? feed = some checksum := by
    rw [← FeedTable.mem_entries_iff, hentries]
    exact List.mem_append_right before List.mem_cons_self
  refine ⟨feed, checksum, ⟨by rw [hlisted]; rfl, fun hsame => ?_, fun other hlt hother => ?_⟩,
    hlisted, hmismatch⟩
  · rw [hlisted, ← FeedTable.mem_entries_iff] at hsame
    rw [feedMismatch?_eq_none_iff.2 hsame] at hmismatch
    cases hmismatch
  · obtain ⟨found, hfound⟩ := Option.isSome_iff_exists.1 hother
    have hmem := FeedTable.mem_entries_iff.2 hfound
    have hascending := s.ascending
    rw [hentries] at hmem hascending
    rcases List.mem_append.1 hmem with hmem | hmem
    · rw [hfound, ← FeedTable.mem_entries_iff]
      exact feedMismatch?_eq_none_iff.1 (hbefore _ hmem)
    · -- whatever comes no earlier has no lower name
      have hname := utf8Bytes_lt_iff.1 hlt
      rcases List.mem_cons.1 hmem with heq | hmem
      · cases heq
        exact absurd hname (String.lt_irrefl feed)
      · have hlater := (List.pairwise_cons.1 (List.pairwise_append.1 hascending).2.1).1 _ hmem
        exact absurd hname (String.lt_asymm hlater)

theorem verifyFeeds_of_empty (h : s = {} ∨ n = {}) :
    ∃ lacking, verifyFeeds s n = .ok (.unverifiable lacking) := by
  unfold verifyFeeds
  by_cases hs : s = {}
  · exact ⟨.scenario, if_pos (FeedTable.isEmpty_iff.2 hs)⟩
  · rw [if_neg (FeedTable.isEmpty_iff.not.2 hs)]
    exact ⟨.network, if_pos (FeedTable.isEmpty_iff.2 (h.resolve_left hs))⟩

section Compared

variable (hs : s ≠ {}) (hn : n ≠ {})
include hs hn

theorem verifyFeeds_of_size_ne (h : s.size ≠ n.size) :
    verifyFeeds s n = .error (.count s.size n.size) := by
  unfold verifyFeeds
  rw [if_neg (FeedTable.isEmpty_iff.not.2 hs), if_neg (FeedTable.isEmpty_iff.not.2 hn), if_pos h]

theorem verifyFeeds_of_size_eq (h : s.size = n.size) :
    verifyFeeds s n = match s.entries.findSome? (feedMismatch? n) with
      | none => .ok .verified
      | some mismatch => .error mismatch := by
  unfold verifyFeeds
  rw [if_neg (FeedTable.isEmpty_iff.not.2 hs), if_neg (FeedTable.isEmpty_iff.not.2 hn)]
  exact if_neg (not_not.2 h)

theorem verifyFeeds_of_eq (h : s = n) : verifyFeeds s n = .ok .verified := by
  have hsize : s.size = n.size := congrArg FeedTable.size h
  rw [verifyFeeds_of_size_eq hs hn hsize, (findSome?_feedMismatch? hsize).2 h]

theorem verifyFeeds_of_ne (hsize : s.size = n.size) (h : s ≠ n) :
    ∃ feed checksum, s.FirstDifference n feed ∧ s.get? feed = some checksum ∧
      ((n.get? feed = none ∧ verifyFeeds s n = .error (.unknown feed)) ∨
        ∃ other, n.get? feed = some other ∧
          verifyFeeds s n = .error (.checksum feed checksum other)) := by
  rw [verifyFeeds_of_size_eq hs hn hsize]
  cases hfound : s.entries.findSome? (feedMismatch? n) with
  | none => exact absurd ((findSome?_feedMismatch? hsize).1 hfound) h
  | some mismatch =>
    obtain ⟨feed, checksum, hfirst, hlisted, hmismatch⟩ := firstDifference_of_findSome? hfound
    refine ⟨feed, checksum, hfirst, hlisted, ?_⟩
    have hdiffers := hfirst.differs
    unfold feedMismatch? at hmismatch
    cases hother : n.get? feed with
    | none =>
      rw [hother] at hmismatch
      exact .inl ⟨rfl, congrArg Except.error (Option.some.inj hmismatch).symm⟩
    | some other =>
      rw [hother, hlisted] at hdiffers
      simp only [hother] at hmismatch
      rw [if_neg fun heq => hdiffers (congrArg some heq)] at hmismatch
      exact .inr ⟨other, rfl, congrArg Except.error (Option.some.inj hmismatch).symm⟩

end Compared

/-- Nothing is compared exactly if a side has no feed; the feeds are verified exactly if both sides
have some, and the same with the same checksums; other numbers of feeds are reported exactly if there
are some on both sides; and in every other case it is the first difference that is reported. -/
theorem verifyFeeds_by_case (s n : FeedTable) :
    ((∃ lacking, verifyFeeds s n = .ok (.unverifiable lacking)) ↔ s = {} ∨ n = {}) ∧
    (verifyFeeds s n = .ok .verified ↔
      s ≠ {} ∧ n ≠ {} ∧ ∀ feed, s.get? feed = n.get? feed) ∧
    (∀ a b, verifyFeeds s n = .error (.count a b) ↔
      s ≠ {} ∧ n ≠ {} ∧ s.size ≠ n.size ∧ a = s.size ∧ b = n.size) ∧
    ((∃ feed checksum, s.FirstDifference n feed ∧ s.get? feed = some checksum ∧
        ((n.get? feed = none ∧ verifyFeeds s n = .error (.unknown feed)) ∨
          ∃ other, n.get? feed = some other ∧
            verifyFeeds s n = .error (.checksum feed checksum other))) ↔
      s ≠ {} ∧ n ≠ {} ∧ s.size = n.size ∧ ∃ feed, s.get? feed ≠ n.get? feed) := by
  have hsame : (∀ feed, s.get? feed = n.get? feed) ↔ s = n :=
    ⟨FeedTable.eq_of_get?, fun h feed => by rw [h]⟩
  have hother : (∃ feed, s.get? feed ≠ n.get? feed) ↔ s ≠ n := not_forall.symm.trans hsame.not
  rw [hsame, hother]
  by_cases hempty : s = {} ∨ n = {}
  · obtain ⟨lacking, heq⟩ := verifyFeeds_of_empty hempty
    have hnot : ¬(s ≠ {} ∧ n ≠ {}) := fun h => hempty.elim h.1 h.2
    rw [heq]
    refine ⟨iff_of_true ⟨lacking, rfl⟩ hempty, iff_of_false nofun fun h => hnot ⟨h.1, h.2.1⟩,
      fun a b => iff_of_false nofun fun h => hnot ⟨h.1, h.2.1⟩,
      iff_of_false ?_ fun h => hnot ⟨h.1, h.2.1⟩⟩
    rintro ⟨feed, checksum, -, -, ⟨-, ⟨⟩⟩ | ⟨other, -, ⟨⟩⟩⟩
  · obtain ⟨hs, hn⟩ := not_or.1 hempty
    by_cases hsize : s.size = n.size
    · by_cases hequal : s = n
      · rw [verifyFeeds_of_eq hs hn hequal]
        refine ⟨iff_of_false nofun hempty, iff_of_true rfl ⟨hs, hn, hequal⟩,
          fun a b => iff_of_false nofun fun h => h.2.2.1 hsize,
          iff_of_false ?_ fun h => h.2.2.2 hequal⟩
        rintro ⟨feed, checksum, -, -, ⟨-, ⟨⟩⟩ | ⟨other, -, ⟨⟩⟩⟩
      · have hreported := verifyFeeds_of_ne hs hn hsize hequal
        refine ⟨iff_of_false ?_ hempty, iff_of_false ?_ fun h => hequal h.2.2,
          fun a b => iff_of_false ?_ fun h => h.2.2.1 hsize,
          iff_of_true hreported ⟨hs, hn, hsize, hequal⟩⟩ <;>
        · obtain ⟨feed, checksum, -, -, ⟨-, heq⟩ | ⟨other, -, heq⟩⟩ := hreported
          · rw [heq]
            nofun
          · rw [heq]
            nofun
    · rw [verifyFeeds_of_size_ne hs hn hsize]
      refine ⟨iff_of_false nofun hempty,
        iff_of_false nofun fun h => hsize (congrArg FeedTable.size h.2.2), fun a b => ?_,
        iff_of_false ?_ fun h => hsize h.2.2.1⟩
      · constructor
        · rintro ⟨⟩
          exact ⟨hs, hn, hsize, rfl, rfl⟩
        · rintro ⟨-, -, -, rfl, rfl⟩
          rfl
      · rintro ⟨feed, checksum, -, -, ⟨-, ⟨⟩⟩ | ⟨other, -, ⟨⟩⟩⟩

/-- Of the two names that differ the one with the lower bytes is reported. -/
example : verifyFeeds (.ofList [("\u00e9", 1), ("f", 2), ("e", 3)])
    (.ofList [("e", 3), ("z", 2), ("\u00e9", 4)]) = .error (.unknown "f") := by
  decide +kernel

end Comparison

end Multimodal
