import Mathlib
import Multimodal.Proofs.Json.Numbers

/-! # Values are read back

* `Json.Legible`: the values that their texts give back, with a bound on how deep containers lie in one
  another.
* `Json.reading`: the tree of a value's text.
* `Json.read_pretty`: a value over several lines is read as that tree, with nothing behind it.
* `Json.parse_pretty`: and parsed as the value.
-/

namespace Multimodal

/-- A value whose numbers are read back and in which at most `depth` containers lie in one another. -/
inductive Json.Legible : Nat → Json → Prop
  | null {depth : Nat} : Legible depth .null
  | bool {depth : Nat} (b : Bool) : Legible depth (.bool b)
  | number {depth : Nat} {n : Json.Number} (h : n.Legible) : Legible depth (.number n)
  | string {depth : Nat} (s : String) : Legible depth (.string s)
  | array {depth : Nat} {items : List Json} (h : ∀ v ∈ items, Legible depth v) :
    Legible (depth + 1) (.array items)
  | object {depth : Nat} {members : List (String × Json)} (h : ∀ m ∈ members, Legible depth m.2) :
    Legible (depth + 1) (.object members)

namespace Json

mutual

/-- The tree of a value's text. -/
def reading : Json → Reading
  | .null => .null
  | .bool b => .bool b
  | .number n => .number n.numeral
  | .string s => .string (some s)
  | .array items => .array (itemReadings items) none
  | .object members => .object (memberReadings members) none

/-- The trees of the items of an array. -/
def itemReadings : List Json → List Reading
  | [] => []
  | v :: rest => reading v :: itemReadings rest

/-- The trees of the members of an object. -/
def memberReadings : List (String × Json) → List (Option String × Reading)
  | [] => []
  | (key, v) :: rest => (some key, reading v) :: memberReadings rest

end

end Json

namespace JsonText

variable {cs rest tail : List Char}

/-! ## Between tokens -/

theorem skipBlanks_newLine (level : Nat) (cs : List Char) :
    skipBlanks (newLine level ++ cs) = skipBlanks cs := by
  unfold skipBlanks newLine
  refine List.dropWhile_append_of_pos fun c hc => ?_
  rcases List.mem_cons.1 hc with rfl | hc
  · rfl
  · rw [List.eq_of_mem_replicate hc]
    rfl

/-- Blanks in front of a value do not matter. -/
theorem readValue_congr (fuel : Nat) (h : skipBlanks cs = skipBlanks rest) :
    readValue fuel cs = readValue fuel rest := by
  cases fuel with
  | zero => rfl
  | succ fuel => rw [readValue, readValue, h]

theorem readValue_newLine (fuel level : Nat) (cs : List Char) :
    readValue fuel (newLine level ++ cs) = readValue fuel cs :=
  readValue_congr fuel (skipBlanks_newLine level cs)

theorem readValue_skipBlanks (fuel : Nat) (cs : List Char) :
    readValue fuel (skipBlanks cs) = readValue fuel cs :=
  readValue_congr fuel (List.dropWhile_idempotent isBlank cs)

theorem two_lt_length_newLine (level : Nat) : 2 < (newLine (level + 1)).length := by
  simp only [newLine, List.length_cons, List.length_replicate]
  omega

theorem exists_fuel {fuel : Nat} (hcs : cs ≠ []) (hfuel : 3 * cs.length ≤ fuel) :
    ∃ f, fuel = f + 1 := by
  have hpos := List.length_pos_of_ne_nil hcs
  exact Nat.exists_eq_succ_of_ne_zero (by omega)

/-! ## Containers -/

/-- A value whose text is read as its tree, wherever it stands and whatever delimits it. -/
def Returned (v : Json) : Prop :=
  ∀ level fuel tail, 3 * (pretty level v).length ≤ fuel → Delimits tail →
    readValue fuel (pretty level v ++ tail) = (v.reading, some tail)

theorem delimits_prettyItems (level : Nat) (items : List Json) (tail : List Char) :
    Delimits (prettyItems level false items ++ tail) := by
  cases items with
  | nil => simp [prettyItems, newLine, Delimits]
  | cons v rest => simp [prettyItems, Delimits]

theorem delimits_prettyMembers (level : Nat) (members : List (String × Json)) (tail : List Char) :
    Delimits (prettyMembers level false members ++ tail) := by
  cases members with
  | nil => simp [prettyMembers, newLine, Delimits]
  | cons m rest => simp [prettyMembers, Delimits]

/-- A closing bracket is no value, nor is the end of the text. -/
theorem exists_of_readValue {fuel : Nat} {v : Json} {left : Rest}
    (h : readValue fuel cs = (v.reading, left)) : ∃ c ds, skipBlanks cs = c :: ds ∧ c ≠ ']' := by
  have hbroken : ∀ f, v.reading ≠ .broken f := by
    intro f
    cases v <;> exact Reading.noConfusion
  cases fuel with
  | zero => exact absurd (congrArg Prod.fst h).symm (hbroken _)
  | succ fuel =>
    cases hcs : skipBlanks cs with
    | nil =>
      rw [readValue, hcs] at h
      exact absurd (congrArg Prod.fst h).symm (hbroken _)
    | cons c ds =>
      refine ⟨c, ds, rfl, ?_⟩
      rintro rfl
      rw [readValue, hcs] at h
      exact absurd (congrArg Prod.fst h).symm (hbroken _)

theorem readItem_of_readValue {fuel : Nat} {item : Reading}
    (h : readValue fuel cs = (item, some rest)) :
    readItem (fuel + 1) cs =
      (item :: (readItems fuel false rest).1, (readItems fuel false rest).2) := by
  rw [readItem, h]

theorem readItems_first {fuel : Nat} {v : Json} (h : readValue fuel cs = (v.reading, some rest)) :
    readItems (fuel + 2) true cs =
      (v.reading :: (readItems fuel false rest).1, (readItems fuel false rest).2) := by
  obtain ⟨c, ds, hcs, hc⟩ := exists_of_readValue h
  rw [readItems, hcs]
  have hitem : readItem (fuel + 1) (c :: ds) = _ :=
    readItem_of_readValue (hcs ▸ (readValue_skipBlanks fuel cs).trans h)
  simp [hitem]

theorem readItems_next {fuel : Nat} {item : Reading} (h : readValue fuel cs = (item, some rest)) :
    readItems (fuel + 2) false (',' :: cs) =
      (item :: (readItems fuel false rest).1, (readItems fuel false rest).2) := by
  simp [readItems, skipBlanks, isBlank, readItem_of_readValue h]

theorem readItems_pretty {items : List Json} (hitems : ∀ v ∈ items, Returned v) (level fuel : Nat)
    (isFirst : Bool) (tail : List Char)
    (hfuel : 3 * (prettyItems level isFirst items).length ≤ fuel) :
    readItems fuel isFirst (prettyItems level isFirst items ++ tail) =
      (Json.itemReadings items, none, some tail) := by
  induction items generalizing fuel isFirst with
  | nil =>
    obtain ⟨fuel, rfl⟩ := exists_fuel (by cases isFirst <;> simp [prettyItems]) hfuel
    cases isFirst with
    | true => simp [prettyItems, readItems, skipBlanks, isBlank, Json.itemReadings]
    | false =>
      rw [prettyItems, List.append_assoc, readItems, skipBlanks_newLine]
      simp [skipBlanks, isBlank, Json.itemReadings]
  | cons v rest ih =>
    have hline := two_lt_length_newLine level
    -- an item takes two units besides its own, and its line starts with more characters than that
    simp only [prettyItems, List.length_append] at hfuel
    obtain ⟨fuel, rfl⟩ : ∃ f, fuel = f + 2 := Nat.exists_eq_add_of_le' (by omega)
    have hv : readValue fuel (newLine (level + 1) ++ (pretty (level + 1) v ++
        (prettyItems level false rest ++ tail))) =
          (v.reading, some (prettyItems level false rest ++ tail)) := by
      rw [readValue_newLine]
      exact hitems v List.mem_cons_self _ _ _ (by omega) (delimits_prettyItems level rest tail)
    have hrest := ih (fun w hw => hitems w (List.mem_cons_of_mem v hw)) fuel false (by omega)
    cases isFirst with
    | true => simp [prettyItems, readItems_first hv, hrest, Json.itemReadings]
    | false => simp [prettyItems, readItems_next hv, hrest, Json.itemReadings]

/-! ### Objects -/

theorem readMember_of_readValue {fuel : Nat} {key : String} {member : Reading} {ds : List Char}
    (hcs : skipBlanks cs = quoted key ++ ':' :: ' ' :: ds)
    (h : readValue fuel ds = (member, some rest)) :
    readMember (fuel + 1) cs =
      ((some key, member) :: (readMembers fuel false rest).1, (readMembers fuel false rest).2) := by
  have hkey := readText_quoted key (':' :: ' ' :: ds)
  have hblank : readValue fuel (' ' :: ds) = (member, some rest) := h ▸ readValue_congr fuel rfl
  rw [readMember, hcs]
  simp [quoted, skipBlanks, isBlank, hkey, hblank]

theorem readMembers_first {fuel : Nat} {key : String} {member : Reading} {ds : List Char}
    (hcs : skipBlanks cs = quoted key ++ ':' :: ' ' :: ds)
    (h : readValue fuel ds = (member, some rest)) :
    readMembers (fuel + 2) true cs =
      ((some key, member) :: (readMembers fuel false rest).1, (readMembers fuel false rest).2) := by
  have hquoted : readMember (fuel + 1) (quoted key ++ ':' :: ' ' :: ds) = _ :=
    readMember_of_readValue rfl h
  rw [readMembers, hcs]
  simpa [quoted] using hquoted

theorem readMembers_next {fuel : Nat} {key : String} {member : Reading} {ds : List Char}
    (hcs : skipBlanks cs = quoted key ++ ':' :: ' ' :: ds)
    (h : readValue fuel ds = (member, some rest)) :
    readMembers (fuel + 2) false (',' :: cs) =
      ((some key, member) :: (readMembers fuel false rest).1, (readMembers fuel false rest).2) := by
  simp [readMembers, skipBlanks, isBlank, readMember_of_readValue hcs h]

theorem readMembers_pretty {members : List (String × Json)} (hmembers : ∀ m ∈ members, Returned m.2)
    (level fuel : Nat) (isFirst : Bool) (tail : List Char)
    (hfuel : 3 * (prettyMembers level isFirst members).length ≤ fuel) :
    readMembers fuel isFirst (prettyMembers level isFirst members ++ tail) =
      (Json.memberReadings members, none, some tail) := by
  induction members generalizing fuel isFirst with
  | nil =>
    obtain ⟨fuel, rfl⟩ := exists_fuel (by cases isFirst <;> simp [prettyMembers]) hfuel
    cases isFirst with
    | true => simp [prettyMembers, readMembers, skipBlanks, isBlank, Json.memberReadings]
    | false =>
      rw [prettyMembers, List.append_assoc, readMembers, skipBlanks_newLine]
      simp [skipBlanks, isBlank, Json.memberReadings]
  | cons m rest ih =>
    obtain ⟨key, v⟩ := m
    have hline := two_lt_length_newLine level
    simp only [prettyMembers, List.length_append, List.length_cons] at hfuel
    obtain ⟨fuel, rfl⟩ : ∃ f, fuel = f + 2 := Nat.exists_eq_add_of_le' (by omega)
    have hkey : skipBlanks (newLine (level + 1) ++ (quoted key ++ ':' :: ' ' ::
        (pretty (level + 1) v ++ (prettyMembers level false rest ++ tail)))) = _ :=
      (skipBlanks_newLine _ _).trans rfl
    have hreturned : Returned v := hmembers (key, v) List.mem_cons_self
    have hv : readValue fuel (pretty (level + 1) v ++ (prettyMembers level false rest ++ tail)) =
        (v.reading, some (prettyMembers level false rest ++ tail)) :=
      hreturned _ _ _ (by omega) (delimits_prettyMembers level rest tail)
    have hrest := ih (fun w hw => hmembers w (List.mem_cons_of_mem _ hw)) fuel false (by omega)
    cases isFirst with
    | true => simp [prettyMembers, readMembers_first hkey hv, hrest, Json.memberReadings]
    | false => simp [prettyMembers, readMembers_next hkey hv, hrest, Json.memberReadings]

/-! ## Values -/

/-- What is legible is read back.  By induction on the value: its containers hold such values. -/
theorem returned_of_legible {depth : Nat} {v : Json} (h : v.Legible depth) : Returned v := by
  induction h with
  | null =>
    intro level fuel tail hfuel _
    obtain ⟨fuel, rfl⟩ := exists_fuel (by simp [pretty]) hfuel
    simp [pretty, readValue, skipBlanks, isBlank, readName, Json.reading]
  | bool b =>
    intro level fuel tail hfuel _
    obtain ⟨fuel, rfl⟩ := exists_fuel (by cases b <;> simp [pretty]) hfuel
    cases b with
    | true => simp [pretty, readValue, skipBlanks, isBlank, readName, Json.reading]
    | false => simp [pretty, readValue, skipBlanks, isBlank, readName, Json.reading]
  | @number _ n hn =>
    intro level fuel tail hfuel htail
    have hread := (StopsByItself.signed _ _ _ hn.1).2 tail htail
    have hne : numberText n ≠ [] := by
      intro hnil
      have hempty := hn.1
      rw [hnil] at hempty
      cases hempty
    obtain ⟨fuel, rfl⟩ := exists_fuel hne hfuel
    exact readValue_of_readSigned fuel hread
  | string s =>
    intro level fuel tail hfuel _
    obtain ⟨fuel, rfl⟩ := exists_fuel (by simp [pretty, quoted]) hfuel
    simp [pretty, quoted, readValue, skipBlanks, isBlank, readText_quoted, Json.reading]
  | array _ ih =>
    intro level fuel tail hfuel _
    simp only [pretty, List.length_cons] at hfuel
    obtain ⟨fuel, rfl⟩ : ∃ f, fuel = f + 1 := Nat.exists_eq_succ_of_ne_zero (by omega)
    have hitems := readItems_pretty ih level fuel true tail (by omega)
    simp [pretty, readValue, skipBlanks, isBlank, hitems, Json.reading]
  | object _ ih =>
    intro level fuel tail hfuel _
    simp only [pretty, List.length_cons] at hfuel
    obtain ⟨fuel, rfl⟩ : ∃ f, fuel = f + 1 := Nat.exists_eq_succ_of_ne_zero (by omega)
    have hmembers := readMembers_pretty ih level fuel true tail (by omega)
    simp [pretty, readValue, skipBlanks, isBlank, hmembers, Json.reading]

end JsonText

namespace Json

/-! ## Whole texts -/

/-- A legible value is read from its text as its tree. -/
theorem read_pretty {depth : Nat} {v : Json} (h : v.Legible depth) :
    Json.read v.pretty = ⟨v.reading, none⟩ := by
  have hread := JsonText.returned_of_legible h 0 _ [] (Nat.le_add_right _ 3) JsonText.delimits_nil
  rw [List.append_nil] at hread
  exact read_ofList hread

theorem itemValues_readings {depth : Nat} {items : List Json}
    (h : ∀ v ∈ items, v.reading.value depth = .ok v) :
    Reading.itemValues depth (itemReadings items) = .ok items := by
  induction items with
  | nil => rfl
  | cons v rest ih =>
    obtain ⟨hv, hrest⟩ := List.forall_mem_cons.1 h
    simp [itemReadings, Reading.itemValues, hv, ih hrest, bind, Except.bind]

theorem memberValues_readings {depth : Nat} {members : List (String × Json)}
    (h : ∀ m ∈ members, m.2.reading.value depth = .ok m.2) :
    Reading.memberValues depth (memberReadings members) = .ok members := by
  induction members with
  | nil => rfl
  | cons m rest ih =>
    obtain ⟨hm, hrest⟩ := List.forall_mem_cons.1 h
    simp [memberReadings, Reading.memberValues, Reading.text, hm, ih hrest, bind, Except.bind]

/-- The tree of a legible value has that value. -/
theorem value_reading {depth : Nat} {v : Json} (h : v.Legible depth) :
    v.reading.value depth = .ok v := by
  induction h with
  | null => rfl
  | bool b => rfl
  | number hn => simp [reading, Reading.value, hn.2]
  | string s => rfl
  | array _ ih =>
    simp [reading, Reading.value, itemValues_readings ih, Reading.settle, bind, Except.bind]
  | object _ ih =>
    simp [reading, Reading.value, memberValues_readings ih, Reading.settle, bind, Except.bind]

/-- A legible value is parsed from its text. -/
theorem parse_pretty {v : Json} (h : v.Legible depthLimit) : Json.parse v.pretty = .ok v := by
  unfold Json.parse
  rw [read_pretty h]
  exact bind_eq_ok.2 ⟨v, value_reading h, rfl⟩

end Json

end Multimodal
