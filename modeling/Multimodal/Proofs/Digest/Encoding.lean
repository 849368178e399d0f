import Mathlib
import Multimodal.Digest.Record

/-! # Records can be read back from their bytes

A field of a known sort is written so that its end can be found, and no field is written as nothing.
So two records whose fields have the same sorts, as far as both go, differ in their bytes if they
differ at all.

* `littleEndian_inj`, `utf8Bytes_inj`: numbers and texts from their bytes.
* `FieldSort`, `Field.Fits`: what kind of value a field has, and that its length can be written.
* `Field.bytes_append_inj`, `fields_append_cases`: fields from their bytes.
* `Record.bytes_inj`: records from their bytes.
* `Record.fields_do_not_run_together`: records from their bytes, whatever follows.
-/

namespace Multimodal

/-! ## Numbers -/

/-- Numbers that fit into the width differ in their bytes. -/
theorem littleEndian_inj {width n m : Nat} (hn : n < 256 ^ width) (hm : m < 256 ^ width)
    (h : littleEndian width n = littleEndian width m) : n = m := by
  induction width generalizing n m with
  | zero =>
    rw [Nat.pow_zero] at hn hm
    omega
  | succ width ih =>
    unfold littleEndian at h
    obtain ⟨hlow, hhigh⟩ := List.cons.inj h
    have hmod : n % 256 = m % 256 := by
      have hbytes := congrArg UInt8.toNat hlow
      simpa using hbytes
    rw [Nat.pow_succ] at hn hm
    have hdiv : n / 256 = m / 256 :=
      ih (Nat.div_lt_of_lt_mul (by omega)) (Nat.div_lt_of_lt_mul (by omega)) hhigh
    omega

theorem word_inj {n m : UInt32} (h : littleEndian 4 n.toNat = littleEndian 4 m.toNat) : n = m :=
  UInt32.toNat_inj.1 (littleEndian_inj n.toNat_lt m.toNat_lt h)

/-! ## Texts -/

theorem toList_loop (bytes : ByteArray) (i : Nat) (r : List UInt8) :
    ByteArray.toList.loop bytes i r = r.reverse ++ bytes.data.toList.drop i := by
  induction hn : bytes.size - i generalizing i r with
  | zero =>
    unfold ByteArray.toList.loop
    have hdrop : bytes.data.toList.drop i = [] := List.drop_eq_nil_of_le (by
      show bytes.data.size ≤ i
      exact Nat.le_of_sub_eq_zero hn)
    rw [if_neg (by omega), hdrop, List.append_nil]
  | succ n ih =>
    have hi : i < bytes.size := by omega
    unfold ByteArray.toList.loop
    rw [if_pos hi, ih (i + 1) _ (by omega), List.reverse_cons, List.append_assoc]
    have hi' : i < bytes.data.toList.length := hi
    have hget : bytes.get! i = bytes.data.toList[i] := by
      show bytes.data[i]! = bytes.data.toList[i]
      rw [getElem!_pos bytes.data i hi, Array.getElem_toList]
    rw [List.drop_eq_getElem_cons hi', hget]
    rfl

theorem toList_eq_data (bytes : ByteArray) : bytes.toList = bytes.data.toList :=
  toList_loop bytes 0 []

theorem utf8Bytes_inj {s t : String} (h : utf8Bytes s = utf8Bytes t) : s = t := by
  unfold utf8Bytes at h
  rw [toList_eq_data, toList_eq_data] at h
  exact String.toByteArray_inj.1 (ByteArray.ext (Array.toList_inj.1 h))

/-! ## Single fields -/

/-- The sorts of fields. -/
inductive FieldSort
  | word
  | signed
  | long
  | flag
  | text
  | words
  deriving DecidableEq

namespace Field

/-- The sort of a field. -/
def sort : Field → FieldSort
  | word _ => .word
  | signed _ => .signed
  | long _ => .long
  | flag _ => .flag
  | text _ => .text
  | words _ => .words

/-- The length of a field's value can be written in 64 bits. -/
def Fits : Field → Prop
  | text s => (utf8Bytes s).length < 2 ^ 64
  | words ns => ns.length < 2 ^ 64
  | word _ | signed _ | long _ | flag _ => True

instance : DecidablePred Fits
  | text _ | words _ => inferInstanceAs (Decidable (_ < _))
  | word _ | signed _ | long _ | flag _ => inferInstanceAs (Decidable True)

theorem bytes_ne_nil (f : Field) : f.bytes ≠ [] := by
  cases f with
  | flag b => exact List.cons_ne_nil _ _
  | word n => exact List.cons_ne_nil _ _
  | signed n => exact List.cons_ne_nil _ _
  | long n => exact List.cons_ne_nil _ _
  | text s => exact List.cons_ne_nil _ _
  | words ns => exact List.cons_ne_nil _ _

theorem length_words_bytes (ns : List UInt32) :
    (ns.flatMap fun n => littleEndian 4 n.toNat).length = 4 * ns.length := by
  induction ns with
  | nil => rfl
  | cons n ns ih =>
    rw [List.flatMap_cons, List.length_append, ih, length_littleEndian, List.length_cons]
    omega

theorem words_inj {ns ms : List UInt32} (hlength : ns.length = ms.length)
    (h : (ns.flatMap fun n => littleEndian 4 n.toNat) =
      ms.flatMap fun n => littleEndian 4 n.toNat) : ns = ms := by
  induction ns generalizing ms with
  | nil => exact (List.length_eq_zero_iff.1 hlength.symm).symm
  | cons n ns ih =>
    cases ms with
    | nil => cases hlength
    | cons m ms =>
      rw [List.flatMap_cons, List.flatMap_cons] at h
      obtain ⟨hfirst, hrest⟩ := List.append_inj h (by simp)
      rw [word_inj hfirst, ih (Nat.succ.inj hlength) hrest]

/-- What is written after its length can be told from what follows. -/
theorem counted_append_inj {a b : Nat} {xs ys r s : List UInt8} (ha : a < 2 ^ 64)
    (hb : b < 2 ^ 64) (hxs : a = b → xs.length = ys.length)
    (h : littleEndian 8 a ++ xs ++ r = littleEndian 8 b ++ ys ++ s) :
    a = b ∧ xs = ys ∧ r = s := by
  rw [List.append_assoc, List.append_assoc] at h
  obtain ⟨hcount, hrest⟩ := List.append_inj h (by simp)
  have hab : a = b := littleEndian_inj ha hb hcount
  obtain ⟨hxy, hrs⟩ := List.append_inj hrest (hxs hab)
  exact ⟨hab, hxy, hrs⟩

/-- A field of a known sort can be told from what follows it. -/
theorem bytes_append_inj {f g : Field} {r s : List UInt8} (hsort : f.sort = g.sort)
    (hf : f.Fits) (hg : g.Fits) (h : f.bytes ++ r = g.bytes ++ s) : f = g ∧ r = s := by
  cases f with
  | word n =>
    cases g with
    | word m =>
      obtain ⟨hbytes, hrest⟩ := List.append_inj h (by simp [bytes])
      exact ⟨congrArg word (word_inj hbytes), hrest⟩
    | _ => cases hsort
  | signed n =>
    cases g with
    | signed m =>
      obtain ⟨hbytes, hrest⟩ := List.append_inj h (by simp [bytes])
      have hnm : n = m := congrArg Int32.ofUInt32 (word_inj hbytes)
      exact ⟨congrArg signed hnm, hrest⟩
    | _ => cases hsort
  | long n =>
    cases g with
    | long m =>
      obtain ⟨hbytes, hrest⟩ := List.append_inj h (by simp [bytes])
      exact ⟨congrArg long (UInt64.toNat_inj.1 (littleEndian_inj n.toNat_lt m.toNat_lt hbytes)),
        hrest⟩
    | _ => cases hsort
  | flag b =>
    cases g with
    | flag c =>
      obtain ⟨hbytes, hrest⟩ := List.append_inj h rfl
      refine ⟨congrArg flag ?_, hrest⟩
      cases b <;> cases c <;> first | rfl | cases hbytes
    | _ => cases hsort
  | text x =>
    cases g with
    | text y =>
      obtain ⟨-, hbytes, hrest⟩ := counted_append_inj hf hg id h
      exact ⟨congrArg text (utf8Bytes_inj hbytes), hrest⟩
    | _ => cases hsort
  | words ns =>
    cases g with
    | words ms =>
      obtain ⟨hlength, hbytes, hrest⟩ := counted_append_inj hf hg (fun hlength => by
        rw [length_words_bytes, length_words_bytes, hlength]) h
      exact ⟨congrArg words (words_inj hlength hbytes), hrest⟩
    | _ => cases hsort

end Field

/-! ## Lists of fields -/

/-- One list goes on where the other one ends. -/
def Comparable {α : Type} (xs ys : List α) : Prop := xs <+: ys ∨ ys <+: xs

theorem Comparable.refl {α : Type} (xs : List α) : Comparable xs xs := .inl (List.prefix_refl xs)

theorem Comparable.of_cons {α : Type} {x y : α} {xs ys : List α}
    (h : Comparable (x :: xs) (y :: ys)) : x = y ∧ Comparable xs ys := by
  rcases h with h | h
  · obtain ⟨heq, hrest⟩ := List.cons_prefix_cons.1 h
    exact ⟨heq, .inl hrest⟩
  · obtain ⟨heq, hrest⟩ := List.cons_prefix_cons.1 h
    exact ⟨heq.symm, .inr hrest⟩

/-- If two lists of fields have the same sorts as far as both go and are written as the same bytes,
with whatever follows, then one list goes on with fields that make up the rest of the other. -/
theorem fields_append_cases {fs gs : List Field} {r s : List UInt8}
    (hsorts : Comparable (fs.map Field.sort) (gs.map Field.sort))
    (hfs : ∀ f ∈ fs, f.Fits) (hgs : ∀ g ∈ gs, g.Fits)
    (h : fs.flatMap Field.bytes ++ r = gs.flatMap Field.bytes ++ s) :
    (∃ more, gs = fs ++ more ∧ r = more.flatMap Field.bytes ++ s) ∨
      ∃ more, fs = gs ++ more ∧ s = more.flatMap Field.bytes ++ r := by
  induction fs generalizing gs with
  | nil => exact .inl ⟨gs, rfl, h⟩
  | cons f fs ih =>
    cases gs with
    | nil => exact .inr ⟨f :: fs, rfl, h.symm⟩
    | cons g gs =>
      obtain ⟨hsort, hothers⟩ := Comparable.of_cons hsorts
      rw [List.flatMap_cons, List.flatMap_cons, List.append_assoc, List.append_assoc] at h
      -- The sort says where the first field ends, so both sides lose the same bytes.
      obtain ⟨rfl, hrest⟩ := Field.bytes_append_inj hsort (hfs f List.mem_cons_self)
        (hgs g List.mem_cons_self) h
      rcases ih hothers (fun x hx => hfs x (List.mem_cons_of_mem f hx))
        (fun x hx => hgs x (List.mem_cons_of_mem f hx)) hrest with
        ⟨more, hmore, hr⟩ | ⟨more, hmore, hs⟩
      · exact .inl ⟨more, by rw [hmore, List.cons_append], hr⟩
      · exact .inr ⟨more, by rw [hmore, List.cons_append], hs⟩

/-- No field is written as nothing. -/
theorem fields_eq_nil {fs : List Field} (h : fs.flatMap Field.bytes = []) : fs = [] := by
  cases fs with
  | nil => rfl
  | cons f fs =>
    rw [List.flatMap_cons] at h
    exact absurd (List.append_eq_nil_iff.1 h).1 f.bytes_ne_nil

/-- Fields whose sorts agree as far as both lists go differ in their bytes.  The lists need not be
known to be equally long. -/
theorem fields_inj {fs gs : List Field} (hsorts : Comparable (fs.map Field.sort) (gs.map Field.sort))
    (hfs : ∀ f ∈ fs, f.Fits) (hgs : ∀ g ∈ gs, g.Fits)
    (h : fs.flatMap Field.bytes = gs.flatMap Field.bytes) : fs = gs := by
  have hends : fs.flatMap Field.bytes ++ [] = gs.flatMap Field.bytes ++ [] := by rw [h]
  rcases fields_append_cases hsorts hfs hgs hends with ⟨more, hmore, hnil⟩ | ⟨more, hmore, hnil⟩
  · rw [List.append_nil] at hnil
    rw [hmore, fields_eq_nil hnil.symm, List.append_nil]
  · rw [List.append_nil] at hnil
    rw [hmore, fields_eq_nil hnil.symm, List.append_nil]

/-- Fields of the same sorts can be told from whatever follows them. -/
theorem fields_append_inj {fs gs : List Field} {r s : List UInt8}
    (hsorts : fs.map Field.sort = gs.map Field.sort) (hfs : ∀ f ∈ fs, f.Fits)
    (hgs : ∀ g ∈ gs, g.Fits)
    (h : fs.flatMap Field.bytes ++ r = gs.flatMap Field.bytes ++ s) : fs = gs ∧ r = s := by
  have hlength : fs.length = gs.length := by simpa using congrArg List.length hsorts
  rcases fields_append_cases (hsorts ▸ Comparable.refl _) hfs hgs h with
    ⟨more, rfl, hr⟩ | ⟨more, rfl, hs⟩
  · obtain rfl : more = [] := by simpa using hlength
    exact ⟨(List.append_nil fs).symm, hr⟩
  · obtain rfl : more = [] := by simpa using hlength
    exact ⟨List.append_nil gs, hs.symm⟩

/-! ## Records -/

/-- The length of a record's kind and of every field can be written. -/
def Record.Fits (r : Record) : Prop := (Field.text r.kind).Fits ∧ ∀ f ∈ r.fields, f.Fits

instance : DecidablePred Record.Fits := fun _ => inferInstanceAs (Decidable (_ ∧ _))

/-- The kind of a record can be told from its bytes, whatever its fields and whatever follows. -/
theorem Record.kind_of_bytes {r s : Record} {rest rest' : List UInt8}
    (hr : (utf8Bytes r.kind).length < 2 ^ 64) (hs : (utf8Bytes s.kind).length < 2 ^ 64)
    (h : r.bytes ++ rest = s.bytes ++ rest') :
    r.kind = s.kind ∧
      r.fields.flatMap Field.bytes ++ rest = s.fields.flatMap Field.bytes ++ rest' := by
  unfold bytes at h
  rw [List.append_assoc, List.append_assoc] at h
  have hsort : (Field.text r.kind).sort = (Field.text s.kind).sort := rfl
  obtain ⟨hkind, hfields⟩ := Field.bytes_append_inj hsort hr hs h
  exact ⟨Field.text.inj hkind, hfields⟩

/-- Records with the same bytes have the same kind, and they are equal if the sorts of their fields
follow from the kind. -/
theorem Record.bytes_inj {r s : Record} (hr : r.Fits) (hs : s.Fits)
    (hsorts : r.kind = s.kind → Comparable (r.fields.map Field.sort) (s.fields.map Field.sort))
    (h : r.bytes = s.bytes) : r = s := by
  have hends : r.bytes ++ [] = s.bytes ++ [] := by rw [h]
  obtain ⟨hkind, hrest⟩ := Record.kind_of_bytes hr.1 hs.1 hends
  rw [List.append_nil, List.append_nil] at hrest
  have hfields : r.fields = s.fields := fields_inj (hsorts hkind) hr.2 hs.2 hrest
  obtain ⟨kind, fields⟩ := r
  obtain ⟨kind', fields'⟩ := s
  cases hkind
  cases hfields
  rfl

/-- Two records with the same list of sorts are written as the same bytes only if they have the same
kind and the same values, even if more bytes follow them, and records of different kinds never are,
whatever fields they have. -/
theorem Record.fields_do_not_run_together :
    (∀ (sorts : List FieldSort) (r s : Record), r.fields.map Field.sort = sorts →
      s.fields.map Field.sort = sorts → r.Fits → s.Fits → ∀ rest rest' : List UInt8,
        (r.bytes ++ rest = s.bytes ++ rest' ↔
          r.kind = s.kind ∧ r.fields = s.fields ∧ rest = rest')) ∧
      ∀ r s : Record, (utf8Bytes r.kind).length < 2 ^ 64 → (utf8Bytes s.kind).length < 2 ^ 64 →
        r.kind ≠ s.kind → ∀ rest rest' : List UInt8, r.bytes ++ rest ≠ s.bytes ++ rest' := by
  refine ⟨fun sorts r s hr hs hfits hfits' rest rest' => ⟨fun h => ?_, ?_⟩,
    fun r s hr hs hkind rest rest' h => ?_⟩
  · obtain ⟨hkind, hfields⟩ := Record.kind_of_bytes hfits.1 hfits'.1 h
    exact ⟨hkind, fields_append_inj (hr.trans hs.symm) hfits.2 hfits'.2 hfields⟩
  · rintro ⟨hkind, hfields, rfl⟩
    unfold bytes
    rw [hkind, hfields]
  · exact hkind (Record.kind_of_bytes hr hs h).1

namespace Sample

/-- A record with a field of every sort; its texts are "ab" and "c". -/
def abThenC : Record :=
  ⟨"stop", [.word 7, .signed (-1), .long 100, .flag true, .text "ab", .text "c", .words [1, 2]]⟩

/-- The same record with the texts "a" and "bc". -/
def aThenBc : Record :=
  ⟨"stop", [.word 7, .signed (-1), .long 100, .flag true, .text "a", .text "bc", .words [1, 2]]⟩

/-- Texts do not trade letters, and an edge is no vertex. -/
theorem texts_do_not_run_together :
    (abThenC.fields.map Field.sort = aThenBc.fields.map Field.sort ∧ abThenC.Fits ∧
      aThenBc.Fits ∧ abThenC.bytes ≠ aThenBc.bytes) ∧
      ∀ rest rest' : List UInt8, Record.bytes ⟨"edge", [.word 7]⟩ ++ rest ≠
        Record.bytes ⟨"vertex", [.word 7]⟩ ++ rest' := by
  have hfits : abThenC.Fits := by decide +kernel
  have hfits' : aThenBc.Fits := by decide +kernel
  refine ⟨⟨rfl, hfits, hfits', fun h => ?_⟩, ?_⟩
  · have hends : abThenC.bytes ++ [] = aThenBc.bytes ++ [] := by rw [h]
    have hsame := (Record.fields_do_not_run_together.1 _ abThenC aThenBc rfl rfl hfits hfits'
      [] []).1 hends
    exact absurd hsame.2.1 (by decide)
  · exact Record.fields_do_not_run_together.2 _ _ (by decide +kernel) (by decide +kernel)
      (by decide)

end Sample

end Multimodal
