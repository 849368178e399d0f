import Mathlib
import Multimodal.Json.Printer
import Multimodal.Json.Reader

/-! # Tokens are read back

A string ends at its closing quote, whatever stands behind it.  A numeral has no closing mark: it ends
where a character follows that no numeral goes on with.

* `readText_quoted`: a string is read back from its escapes.
* `Delimits`, `StopsByItself.parts`: what is read as a numeral at the end of a text is read as the same
  numeral in front of anything that delimits it.
* `readParts_toDigits`, `ofDigits_toDigits`: the digits of a natural number are a numeral, and stand for
  the number.
-/

namespace Multimodal

theorem bind_eq_ok {ε α β : Type} {x : Except ε α} {f : α → Except ε β} {b : β} :
    x >>= f = .ok b ↔ ∃ a, x = .ok a ∧ f a = .ok b := by
  cases x with
  | error e => simp [bind, Except.bind]
  | ok a => simp [bind, Except.bind]

namespace JsonText

/-! ## Strings -/

theorem hexNumber?_control : ∀ n < 32,
    hexNumber? ['0', '0', Nat.digitChar (n / 16), Nat.digitChar (n % 16)] = some n := by
  decide

/-- Reading the escape of a character adds the character. -/
theorem readText_escape (t : TextState) (c : Char) (rest : List Char) :
    readText t (escape c ++ rest) = readText (t.push c) rest := by
  unfold escape
  split
  case h_8 hquote hslash _ _ _ _ _ =>
    split
    case isTrue hcontrol =>
      have hsmall : c.toNat < 32 := hcontrol
      -- the code of a control character is no half of a character
      have hcode : t.pushCode c.toNat = t.push c := by
        unfold TextState.pushCode
        rw [if_neg (by omega), if_neg (by omega), Char.ofNat_toNat]
      simp [readText, hexNumber?_control c.toNat hsmall, hcode]
    case isFalse hplain =>
      -- an unescaped character starts none of the other patterns of the reader
      rw [List.singleton_append, readText.eq_def]
      split <;> simp_all
  all_goals simp [readText, escapeChar?]

theorem readText_flatMap_escape (cs rest : List Char) {t : TextState} (hsound : t.sound = true)
    (hhalf : t.half = none) :
    readText t (cs.flatMap escape ++ '"' :: rest) =
      .ok (some (String.ofList (t.reversed.reverse ++ cs)), rest) := by
  induction cs generalizing t with
  | nil => simp [readText, TextState.close, hsound, hhalf]
  | cons c cs ih =>
    rw [List.flatMap_cons, List.append_assoc, readText_escape, ih (by simp [TextState.push, *]) rfl]
    simp [TextState.push]

/-- A string is read back from its text. -/
theorem readText_quoted (s : String) (rest : List Char) :
    readText {} (s.toList.flatMap escape ++ '"' :: rest) = .ok (some s, rest) := by
  rw [readText_flatMap_escape s.toList rest rfl rfl]
  simp

/-! ## Where numerals end -/

/-- No character that a numeral could go on with comes first. -/
def Delimits (rest : List Char) : Prop :=
  ∀ c ∈ rest.head?, c.isDigit = false ∧ c ≠ '.' ∧ c ≠ 'e' ∧ c ≠ 'E'

theorem delimits_nil : Delimits [] := by
  intro c hc
  cases hc

theorem span_isDigit_append {cs tail : List Char} (htail : Delimits tail) :
    (cs ++ tail).span Char.isDigit =
      ((cs.span Char.isDigit).1, (cs.span Char.isDigit).2 ++ tail) := by
  simp only [List.span_eq_takeWhile_dropWhile]
  induction cs with
  | nil =>
    cases tail with
    | nil => rfl
    | cons c tail => simp [(htail c rfl).1]
  | cons c cs ih =>
    cases hc : c.isDigit with
    | true => simpa [hc] using ih
    | false => simp [hc]

theorem readFraction_of_head {cs : List Char} (h : ∀ c ∈ cs.head?, c ≠ '.') :
    readFraction cs = .ok ([], cs) := by
  unfold readFraction
  split
  case h_1 => exact absurd rfl (h '.' rfl)
  case h_2 => rfl

theorem readSign_suffix (cs : List Char) : (readSign cs).2 <:+ cs := by
  unfold readSign
  split
  · exact List.suffix_cons _ _
  · exact List.suffix_cons _ _
  · exact List.suffix_rfl

theorem readSign_append {cs : List Char} (hcs : cs ≠ []) (tail : List Char) :
    readSign (cs ++ tail) = ((readSign cs).1, (readSign cs).2 ++ tail) := by
  cases cs with
  | nil => exact absurd rfl hcs
  | cons c cs =>
    rw [List.cons_append]
    unfold readSign
    split <;> split <;> simp_all

/-- A reader that takes a front part of the text, and the same part when something that delimits
numerals follows the text. -/
def StopsByItself {α : Type} (read : List Char → Except Fault (α × List Char)) : Prop :=
  ∀ cs a rest, read cs = .ok (a, rest) →
    rest <:+ cs ∧ ∀ tail, Delimits tail → read (cs ++ tail) = .ok (a, rest ++ tail)

namespace StopsByItself

theorem bind {α β : Type} {read : List Char → Except Fault (α × List Char)}
    {next : α × List Char → Except Fault (β × List Char)} (hread : StopsByItself read)
    (hnext : ∀ a, StopsByItself fun cs => next (a, cs)) :
    StopsByItself fun cs => read cs >>= next := by
  intro cs b rest h
  obtain ⟨⟨a, left⟩, hfirst, hsecond⟩ := bind_eq_ok.1 h
  obtain ⟨hleft, hread'⟩ := hread cs a left hfirst
  obtain ⟨hrest, hnext'⟩ := hnext a left b rest hsecond
  exact ⟨hrest.trans hleft, fun tail htail =>
    bind_eq_ok.2 ⟨(a, left ++ tail), hread' tail htail, hnext' tail htail⟩⟩

theorem done {α : Type} (a : α) :
    StopsByItself fun cs => (.ok (a, cs) : Except Fault (α × List Char)) := by
  intro cs b rest h
  cases h
  exact ⟨List.suffix_rfl, fun _ _ => rfl⟩

theorem fail {α : Type} (f : Fault) :
    StopsByItself fun _ => (.error f : Except Fault (α × List Char)) := by
  intro _ _ _ h
  cases h

theorem digits : StopsByItself readDigits := by
  intro cs ds rest h
  cases cs with
  | nil => cases h
  | cons c cs =>
    unfold readDigits at h ⊢
    simp only [List.cons_append] at h ⊢
    split at h
    case isFalse => cases h
    case isTrue hc =>
      have hspan := Except.ok.inj h
      rw [List.span_eq_takeWhile_dropWhile] at hspan
      obtain ⟨rfl, rfl⟩ := Prod.mk.inj hspan
      refine ⟨List.dropWhile_suffix _, fun tail htail => ?_⟩
      rw [if_pos hc, ← List.cons_append, span_isDigit_append htail, Except.ok.inj h]

theorem whole : StopsByItself readWhole := by
  refine digits.bind fun ds => ?_
  dsimp only
  split
  · exact .fail _
  · exact .done _

theorem fraction : StopsByItself readFraction := by
  intro cs ds rest h
  cases cs with
  | nil =>
    cases h
    exact ⟨List.suffix_rfl, fun tail htail => readFraction_of_head fun c hc => (htail c hc).2.1⟩
  | cons c cs =>
    by_cases hc : c = '.'
    · subst hc
      obtain ⟨hrest, hread⟩ := digits cs ds rest h
      exact ⟨hrest.trans (List.suffix_cons _ _), hread⟩
    · have hhead : ∀ d ∈ (c :: cs).head?, d ≠ '.' := by simpa using hc
      rw [readFraction_of_head hhead] at h
      cases h
      exact ⟨List.suffix_rfl, fun tail _ => readFraction_of_head hhead⟩

theorem exponent : StopsByItself readExponent := by
  intro cs e rest h
  cases cs with
  | nil =>
    cases h
    refine ⟨List.suffix_rfl, fun tail htail => ?_⟩
    cases tail with
    | nil => rfl
    | cons c tail =>
      obtain ⟨_, _, he, hE⟩ := htail c rfl
      simp [readExponent, he, hE]
  | cons c cs =>
    unfold readExponent at h ⊢
    simp only [List.cons_append] at h ⊢
    split at h
    case isFalse hc =>
      cases h
      exact ⟨List.suffix_rfl, fun tail _ => by rw [if_neg hc, List.cons_append]⟩
    case isTrue hc =>
      -- The text does not end at the mark of an exponent, since digits must follow.
      cases cs with
      | nil => cases h
      | cons d cs =>
        obtain ⟨hrest, hread⟩ :=
          digits.bind (fun ds => .done (some ((readSign (d :: cs)).1, ds))) _ e rest h
        refine ⟨hrest.trans ((readSign_suffix _).trans (List.suffix_cons _ _)), ?_⟩
        intro tail htail
        rw [if_pos hc, readSign_append (List.cons_ne_nil d cs)]
        exact hread tail htail

/-- A numeral ends in the same place whatever delimits it. -/
theorem parts (negative : Bool) : StopsByItself (readParts negative) := by
  refine whole.bind fun w => ?_
  refine fraction.bind fun f => ?_
  exact exponent.bind fun e => .done _

end StopsByItself

/-! ## Whole numbers -/

theorem toDigits_ne_zero_cons {n : Nat} (hn : n ≠ 0) (cs : List Char) :
    Nat.toDigits 10 n ≠ '0' :: cs := by
  induction n using Nat.strongRecOn generalizing cs with
  | ind n ih =>
    intro h
    rcases Nat.lt_or_ge n 10 with hlt | hge
    · rw [Nat.toDigits_of_lt_base hlt] at h
      exact hn (Nat.digitChar_eq_zero.1 (List.cons.inj h).1)
    · -- the first digit is that of the number without its last digit, which is not zero either
      rw [Nat.toDigits_of_base_le (by decide) hge] at h
      cases hinit : Nat.toDigits 10 (n / 10) with
      | nil => exact Nat.toDigits_ne_nil hinit
      | cons d ds =>
        rw [hinit] at h
        have hd : d = '0' := (List.cons.inj h).1
        exact ih (n / 10) (by omega) (by omega) ds (hinit.trans (by rw [hd]))

/-- The digits of a natural number are a numeral. -/
theorem readParts_toDigits (negative : Bool) (n : Nat) :
    readParts negative (Nat.toDigits 10 n) = .ok (⟨negative, Nat.toDigits 10 n, [], none⟩, []) := by
  have hall : ∀ c ∈ Nat.toDigits 10 n, c.isDigit = true := fun c =>
    Nat.isDigit_of_mem_toDigits (by decide) (by decide)
  have hdigits : readDigits (Nat.toDigits 10 n) = .ok (Nat.toDigits 10 n, []) := by
    have hspan : (Nat.toDigits 10 n).span Char.isDigit = (Nat.toDigits 10 n, []) := by
      rw [List.span_eq_takeWhile_dropWhile, List.takeWhile_eq_self_iff.2 hall,
        List.dropWhile_eq_nil_iff.2 hall]
    cases hcs : Nat.toDigits 10 n with
    | nil => exact absurd hcs Nat.toDigits_ne_nil
    | cons c cs =>
      rw [hcs] at hall hspan
      rw [readDigits, if_pos (hall c (List.mem_cons_self)), hspan]
  have hwhole : readWhole (Nat.toDigits 10 n) = .ok (Nat.toDigits 10 n, []) := by
    unfold readWhole
    simp only [hdigits, bind, Except.bind]
    split
    case h_1 d ds heq =>
      rcases Nat.eq_zero_or_pos n with rfl | hpos
      · cases heq
      · exact absurd heq (toDigits_ne_zero_cons (by omega) _)
    case h_2 => rfl
  unfold readParts
  rw [hwhole]
  rfl

theorem ofDigits_toDigits (n : Nat) : Numeral.ofDigits (Nat.toDigits 10 n) = n :=
  Nat.ofDigitChars_eq_foldl.symm.trans Nat.ofDigitChars_ten_toDigits

end JsonText

end Multimodal
