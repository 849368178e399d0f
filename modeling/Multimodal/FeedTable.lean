/-! # Feed checksums

The feeds that a timetable was built from, each with a checksum, in ascending order of their names.
Names are compared code point by code point, which is also the order of their UTF-8 bytes.

* `FeedTable`: the table; `insert` sets one checksum, `get?` reads it.
* `FeedTable.get?_insert`: what a table answers after it is changed.
-/

namespace Multimodal

/-- One feed with its checksum. -/
abbrev FeedEntry := String × UInt64

/-- A checksum put into its place, over the old one if the name is there. -/
def insertByName (name : String) (checksum : UInt64) : List FeedEntry → List FeedEntry
  | [] => [(name, checksum)]
  | (other, c) :: rest =>
    if name < other then (name, checksum) :: (other, c) :: rest
    else if name = other then (name, checksum) :: rest
    else (other, c) :: insertByName name checksum rest

theorem mem_of_mem_insertByName {name : String} {checksum : UInt64} {es : List FeedEntry}
    {e : FeedEntry} (h : e ∈ insertByName name checksum es) : e = (name, checksum) ∨ e ∈ es := by
  induction es with
  | nil => simpa [insertByName] using h
  | cons x rest ih => grind [insertByName]

theorem pairwise_insertByName {name : String} {checksum : UInt64} {es : List FeedEntry}
    (h : es.Pairwise fun a b => a.1 < b.1) :
    (insertByName name checksum es).Pairwise fun a b => a.1 < b.1 := by
  induction es with
  | nil => simp [insertByName]
  | cons x rest ih =>
    rw [List.pairwise_cons] at h
    have after := ih h.2
    rw [insertByName.eq_def]
    split
    · contradiction
    · rename_i other c tail heq
      obtain ⟨rfl, rfl⟩ := List.cons.inj heq
      split
      · rename_i hlt
        refine List.pairwise_cons.2 ⟨fun e he => ?_, List.pairwise_cons.2 h⟩
        rcases List.mem_cons.1 he with rfl | he
        · exact hlt
        · exact String.lt_trans hlt (h.1 e he)
      · split
        · rename_i heq
          subst heq
          exact List.pairwise_cons.2 h
        · rename_i hlt hne
          have hgt : other < name := by
            refine Decidable.byContradiction fun hno => hne ?_
            exact String.le_antisymm (String.not_lt.1 hno) (String.not_lt.1 hlt)
          refine List.pairwise_cons.2 ⟨fun e he => ?_, after⟩
          rcases mem_of_mem_insertByName he with rfl | he
          · exact hgt
          · exact h.1 e he

/-- A name above all others goes to the end. -/
theorem insertByName_of_forall_lt {name : String} {checksum : UInt64} {es : List FeedEntry}
    (h : ∀ e ∈ es, e.1 < name) : insertByName name checksum es = es ++ [(name, checksum)] := by
  induction es with
  | nil => rfl
  | cons e rest ih =>
    obtain ⟨hlt, hrest⟩ := List.forall_mem_cons.1 h
    rw [insertByName, if_neg (String.lt_asymm hlt), if_neg (String.ne_of_lt hlt).symm, ih hrest,
      List.cons_append]

/-- Feed names with their checksums. -/
structure FeedTable where
  entries : List FeedEntry
  ascending : entries.Pairwise fun a b => a.1 < b.1
  deriving DecidableEq

namespace FeedTable

theorem eq_of_entries {t u : FeedTable} (h : t.entries = u.entries) : t = u := by
  cases t
  cases u
  cases h
  rfl

/-- No feed. -/
def empty : FeedTable := ⟨[], List.Pairwise.nil⟩

instance : EmptyCollection FeedTable := ⟨empty⟩
instance : Inhabited FeedTable := ⟨empty⟩

/-- The table with one checksum set. -/
def insert (t : FeedTable) (name : String) (checksum : UInt64) : FeedTable :=
  ⟨insertByName name checksum t.entries, pairwise_insertByName t.ascending⟩

/-- The table of the listed feeds; of several checksums for a name the last counts. -/
def ofList (es : List FeedEntry) : FeedTable := es.foldl (fun t e => t.insert e.1 e.2) empty

/-- The checksum of a feed. -/
def get? (t : FeedTable) (name : String) : Option UInt64 := t.entries.lookup name

/-- The number of feeds. -/
def size (t : FeedTable) : Nat := t.entries.length

/-- Whether there is no feed. -/
def isEmpty (t : FeedTable) : Bool := t.entries.isEmpty

theorem lookup_insertByName (name other : String) (checksum : UInt64) (es : List FeedEntry) :
    (insertByName name checksum es).lookup other =
      if other = name then some checksum else es.lookup other := by
  induction es with
  | nil => grind [insertByName]
  | cons x rest ih => grind [insertByName]

/-- A changed table answers the new checksum for its name and the old ones for all others. -/
theorem get?_insert (t : FeedTable) (name other : String) (checksum : UInt64) :
    (t.insert name checksum).get? other = if other = name then some checksum else t.get? other :=
  lookup_insertByName name other checksum t.entries

end FeedTable

end Multimodal
