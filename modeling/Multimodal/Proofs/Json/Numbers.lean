import Mathlib
import Multimodal.Proofs.Json.Tokens

/-! # Numbers are read back

* `Json.Number.Legible`: a number that its text gives back, with nothing left.
* `legible_natural`: natural numbers are legible.
* `legible_of_parse`: so is every number whose text has no blanks and is parsed as the number.
* `Json.ReadsBack`: the doubles that are legible under the layout of documents.
-/

namespace Multimodal

namespace JsonText

/-! ## Numerals as values -/

/-- A numeral with its sign. -/
def readSigned : List Char → Except Fault (Numeral × List Char)
  | '-' :: cs => readParts true cs
  | cs => readParts false cs

theorem StopsByItself.signed : StopsByItself readSigned := by
  intro cs n rest h
  unfold readSigned at h
  split at h
  case h_1 cs =>
    obtain ⟨hrest, hread⟩ := parts true cs n rest h
    exact ⟨hrest.trans (List.suffix_cons _ _), hread⟩
  case h_2 hsign =>
    obtain ⟨hrest, hread⟩ := parts false cs n rest h
    refine ⟨hrest, fun tail htail => ?_⟩
    cases cs with
    | nil => cases h
    | cons c cs =>
      rw [List.cons_append]
      unfold readSigned
      split
      case h_1 heq => exact absurd (List.cons.inj heq).1 fun hc => hsign cs (by rw [hc])
      case h_2 => exact hread tail htail

theorem isDigit_of_readParts {negative : Bool} {c : Char} {cs rest : List Char} {n : Numeral}
    (h : readParts negative (c :: cs) = .ok (n, rest)) : c.isDigit = true := by
  by_contra hc
  have hdigits : readDigits (c :: cs) = .error .malformed := if_neg hc
  simp [readParts, readWhole, hdigits, bind, Except.bind] at h

theorem isBlank_of_isDigit {c : Char} (h : c.isDigit = true) : isBlank c = false := by
  simp only [isBlank, Bool.or_eq_false_iff, decide_eq_false_iff_not]
  refine ⟨⟨⟨?_, ?_⟩, ?_⟩, ?_⟩ <;> (rintro rfl; exact absurd h (by decide))

/-- Characters none of which is a blank. -/
def Solid (cs : List Char) : Prop := ∀ c ∈ cs, isBlank c = false

theorem solid_append {as bs : List Char} : Solid (as ++ bs) ↔ Solid as ∧ Solid bs :=
  List.forall_mem_append

theorem solid_cons {c : Char} {cs : List Char} : Solid (c :: cs) ↔ isBlank c = false ∧ Solid cs :=
  List.forall_mem_cons

theorem skipBlanks_of_solid {cs : List Char} (h : Solid cs) : skipBlanks cs = cs := by
  cases cs with
  | nil => rfl
  | cons c cs => simp [skipBlanks, (solid_cons.1 h).1]

/-- A numeral is a value. -/
theorem readValue_of_readSigned {cs rest : List Char} {n : Numeral} (fuel : Nat)
    (h : readSigned cs = .ok (n, rest)) : readValue (fuel + 1) cs = (.number n, some rest) := by
  unfold readSigned at h
  split at h
  case h_1 cs => simp [readValue, skipBlanks, isBlank, readNumeral, h]
  case h_2 hsign =>
    cases cs with
    | nil => cases h
    | cons c cs =>
      have hc := isDigit_of_readParts h
      have hskip : skipBlanks (c :: cs) = c :: cs := by
        simp [skipBlanks, isBlank_of_isDigit hc]
      unfold readValue
      rw [hskip]
      split <;> simp_all [readNumeral]

theorem readName_ne_number {result : Reading} {n : Numeral} (hresult : result ≠ .number n)
    (name cs : List Char) : (readName result name cs).1 ≠ .number n := by
  fun_induction readName result name cs with
  | case1 => exact hresult
  | case2 => exact Reading.noConfusion
  | case3 _ _ _ ih => exact ih
  | case4 => exact Reading.noConfusion

theorem readParts_of_readNumeral {negative : Bool} {cs : List Char} {n : Numeral} {rest : Rest}
    (h : readNumeral negative cs = (.number n, rest)) :
    ∃ left, readParts negative cs = .ok (n, left) ∧ rest = some left := by
  unfold readNumeral at h
  split at h
  case h_1 m left hread =>
    cases h
    exact ⟨left, hread, rfl⟩
  case h_2 => cases h

/-- Only a numeral is read as a number. -/
theorem readSigned_of_readValue {fuel : Nat} {cs : List Char} {n : Numeral} {rest : Rest}
    (h : readValue (fuel + 1) cs = (.number n, rest)) :
    ∃ left, readSigned (skipBlanks cs) = .ok (n, left) ∧ rest = some left := by
  unfold readValue at h
  split at h
  case h_1 => cases h
  case h_2 => exact absurd (congrArg Prod.fst h) (readName_ne_number Reading.noConfusion _ _)
  case h_3 => exact absurd (congrArg Prod.fst h) (readName_ne_number Reading.noConfusion _ _)
  case h_4 => exact absurd (congrArg Prod.fst h) (readName_ne_number Reading.noConfusion _ _)
  case h_5 =>
    split at h <;> cases h
  case h_6 cs heq =>
    rw [heq]
    exact readParts_of_readNumeral h
  case h_7 => cases h
  case h_8 => cases h
  case h_9 c cs _ _ _ _ hminus _ _ heq =>
    split at h
    case isFalse => cases h
    case isTrue =>
      rw [heq]
      unfold readSigned
      split
      case h_1 heq' => exact absurd (List.cons.inj heq').1 hminus
      case h_2 => exact readParts_of_readNumeral h

end JsonText

namespace Reading

theorem settle_eq_ok {α : Type} {f : Option Flaw} {a b : α} :
    settle f a = .ok b ↔ f = none ∧ a = b := by
  cases f with
  | none => simp [settle]
  | some f => simp [settle]

theorem eq_number_of_value {depth : Nat} {r : Reading} {n : Json.Number}
    (h : r.value depth = .ok (.number n)) : ∃ m, r = .number m ∧ m.value? = some n := by
  cases r with
  | number m =>
    simp only [value] at h
    split at h
    case h_1 v hv =>
      cases h
      exact ⟨m, rfl, hv⟩
    case h_2 => cases h
  | null => cases h
  | bool b => cases h
  | broken f => cases h
  | string s => cases s <;> cases h
  | array items ending =>
    simp only [value] at h
    split at h
    · cases h
    · obtain ⟨vs, _, hsettle⟩ := bind_eq_ok.1 h
      cases (settle_eq_ok.1 hsettle).2
  | object members ending =>
    simp only [value] at h
    split at h
    · cases h
    · obtain ⟨vs, _, hsettle⟩ := bind_eq_ok.1 h
      cases (settle_eq_ok.1 hsettle).2

end Reading

/-! ## Whole texts -/

theorem Json.tree_read (cs : List Char) :
    (Json.read (String.ofList cs)).tree = (JsonText.readValue (3 * cs.length + 3) cs).1 := by
  unfold Json.read
  rw [String.toList_ofList]
  dsimp only
  split <;> simp_all

theorem Json.read_ofList {cs left : List Char} {tree : Reading}
    (h : JsonText.readValue (3 * cs.length + 3) cs = (tree, some left)) :
    Json.read (String.ofList cs) =
      ⟨tree, if (JsonText.skipBlanks left).isEmpty then none else some .malformed⟩ := by
  unfold Json.read
  rw [String.toList_ofList]
  dsimp only
  rw [h]

/-! ## Numbers -/

namespace Json.Number

/-- The numeral that a number is written as. -/
def numeral (n : Number) : Numeral :=
  match JsonText.readSigned (JsonText.numberText n) with
  | .ok (m, _) => m
  | .error _ => ⟨false, [], [], none⟩

/-- The text of a number is a numeral and stands for the number. -/
def Legible (n : Number) : Prop :=
  JsonText.readSigned (JsonText.numberText n) = .ok (n.numeral, []) ∧ n.numeral.value? = some n

theorem legible_of_readSigned {n : Number} {m : Numeral}
    (hread : JsonText.readSigned (JsonText.numberText n) = .ok (m, [])) (hvalue : m.value? = some n) :
    n.Legible := by
  have hm : n.numeral = m := by rw [numeral, hread]
  exact ⟨by rw [hread, hm], by rw [hm, hvalue]⟩

theorem readSigned_toDigits (k : Nat) :
    JsonText.readSigned (Nat.toDigits 10 k) =
      .ok (⟨false, Nat.toDigits 10 k, [], none⟩, []) := by
  unfold JsonText.readSigned
  split
  case h_1 cs heq =>
    have hminus : '-' ∈ Nat.toDigits 10 k := by rw [heq]; exact List.mem_cons_self
    exact absurd (Nat.isDigit_of_mem_toDigits (by decide) (by decide) hminus) (by decide)
  case h_2 => exact JsonText.readParts_toDigits false k

theorem legible_natural (k : UInt64) : (natural k).Legible := by
  have htext : JsonText.numberText (natural k) = Nat.toDigits 10 k.toNat := Nat.toList_repr
  refine legible_of_readSigned (m := ⟨false, Nat.toDigits 10 k.toNat, [], none⟩)
    (htext ▸ readSigned_toDigits k.toNat) ?_
  have hlt : k.toNat < UInt64.size := k.toNat_lt
  simp [Numeral.value?, JsonText.ofDigits_toDigits, hlt]

/-- A number whose text has no blanks is legible if the text is parsed as the number. -/
theorem legible_of_parse {n : Number}
    (hsolid : JsonText.Solid (JsonText.numberText n))
    (h : Json.parse (String.ofList (JsonText.numberText n)) = .ok (.number n)) : n.Legible := by
  obtain ⟨v, hvalue, hsettle⟩ := bind_eq_ok.1 h
  obtain ⟨htrailing, rfl⟩ := Reading.settle_eq_ok.1 hsettle
  obtain ⟨m, htree, hm⟩ := Reading.eq_number_of_value hvalue
  rw [tree_read] at htree
  obtain ⟨left, hsigned, hrest⟩ := JsonText.readSigned_of_readValue (Prod.ext htree rfl)
  rw [read_ofList (Prod.ext htree hrest)] at htrailing
  rw [JsonText.skipBlanks_of_solid hsolid] at hsigned
  have hsuffix := (JsonText.StopsByItself.signed _ _ _ hsigned).1
  have hleft : JsonText.Solid left := fun c hc => hsolid c (hsuffix.subset hc)
  have hnil : left = [] := by simpa [JsonText.skipBlanks_of_solid hleft] using htrailing
  exact legible_of_readSigned (hnil ▸ hsigned) hm

end Json.Number

/-! ### Doubles -/

namespace JsonText

theorem solid_zeros (k : Nat) : Solid (List.replicate k '0') := by
  intro c hc
  rw [List.eq_of_mem_replicate hc]
  rfl

theorem solid_digits (k : Nat) : Solid (Nat.repr k).toList := by
  intro c hc
  rw [Nat.toList_repr] at hc
  exact isBlank_of_isDigit (Nat.isDigit_of_mem_toDigits (by decide) (by decide) hc)

theorem solid_positionalText {suffix : String} (hsuffix : Solid suffix.toList) (d : Decimal.Digits) :
    Solid (Decimal.positionalText suffix d) := by
  have hdigits : Solid d.text := solid_digits d.significand
  unfold Decimal.positionalText
  split
  case isTrue => exact solid_append.2 ⟨solid_append.2 ⟨hdigits, solid_zeros _⟩, hsuffix⟩
  case isFalse =>
    dsimp only
    split
    case isTrue =>
      exact solid_append.2 ⟨fun c hc => hdigits c (List.mem_of_mem_take hc),
        solid_cons.2 ⟨rfl, fun c hc => hdigits c (List.mem_of_mem_drop hc)⟩⟩
    case isFalse =>
      exact solid_cons.2 ⟨rfl, solid_cons.2 ⟨rfl, solid_append.2 ⟨solid_zeros _, hdigits⟩⟩⟩

theorem solid_scientificText (d : Decimal.Digits) : Solid (Decimal.scientificText d) := by
  have hexponent : Solid ('e' :: (if d.scientific < 0 then '-' else '+') ::
      (Nat.repr d.scientific.natAbs).toList) := by
    refine solid_cons.2 ⟨rfl, solid_cons.2 ⟨?_, solid_digits _⟩⟩
    split <;> rfl
  have hdigits : Solid d.text := solid_digits d.significand
  unfold Decimal.scientificText
  dsimp only
  split
  case h_1 => exact hexponent
  case h_2 c heq =>
    rw [heq] at hdigits
    exact solid_cons.2 ⟨(solid_cons.1 hdigits).1, hexponent⟩
  case h_3 c rest _ heq =>
    rw [heq] at hdigits
    obtain ⟨hc, hrest⟩ := solid_cons.1 hdigits
    exact solid_cons.2 ⟨hc, solid_cons.2 ⟨rfl, solid_append.2 ⟨hrest, hexponent⟩⟩⟩

theorem solid_render (x : Float) : Solid (Decimal.Layout.document.render x).toList := by
  have hnull : Solid "null".toList := by simp [Solid, isBlank]
  have hwhole : Solid ".0".toList := by simp [Solid, isBlank]
  unfold Decimal.Layout.render
  split
  case h_1 =>
    split
    · exact hnull
    · exact hnull
  case h_2 b _ =>
    have hmagnitude : Solid
        (if Decimal.Layout.document.positional (Decimal.shortest .even b).scientific then
          Decimal.positionalText ".0" (Decimal.shortest .even b)
        else Decimal.scientificText (Decimal.shortest .even b)) := by
      split
      · exact solid_positionalText hwhole _
      · exact solid_scientificText _
    rw [String.toList_ofList]
    split
    · exact solid_cons.2 ⟨rfl, hmagnitude⟩
    · exact hmagnitude

end JsonText

/-- The text of a double in a document is parsed as that double. -/
def Json.ReadsBack (x : Float) : Prop :=
  Json.parse (Decimal.Layout.document.render x) = .ok (.number (.float x))

/-- Whether a double was parsed. -/
def Json.isDouble (x : Float) : Except Flaw Json → Bool
  | .ok (.number (.float y)) => y = x
  | _ => false

theorem Json.isDouble_iff {x : Float} {r : Except Flaw Json} :
    Json.isDouble x r = true ↔ r = .ok (.number (.float x)) := by
  unfold Json.isDouble
  split <;> simp_all

instance (x : Float) (r : Except Flaw Json) : Decidable (r = .ok (.number (.float x))) :=
  decidable_of_iff _ Json.isDouble_iff

theorem Json.ReadsBack.legible {x : Float} (h : Json.ReadsBack x) :
    (Json.Number.float x).Legible := by
  refine Json.Number.legible_of_parse (JsonText.solid_render x) ?_
  rw [JsonText.numberText, String.ofList_toList]
  exact h

end Multimodal
