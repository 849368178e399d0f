import Mathlib
import Multimodal.Json.Decode
import Multimodal.Proofs.Json.RoundTrip

/-! # Records are read back

* `Json.Restores`: decoding gives back what was encoded.
* `Json.field_eq`, `Json.fieldOr_eq`, `Json.fieldOption_eq`: the fields of a complete record.
* `Reading.foldMembers_cons`, `Reading.asList_reading`: records and lists in the order of the text.
* `Json.Legible.mono`, `Json.legible_members_append`, `Json.legible_optional`: how values and members
  that are legible are put together.
-/

namespace Multimodal

namespace Json

/-! ## Complete values -/

/-- Decoding gives back what was encoded, and nothing is encoded as null. -/
structure Restores {α : Type} (encode : α → Json) (decode : Json → Option α) : Prop where
  restored : ∀ a, decode (encode a) = some a
  notNull : ∀ a, encode a ≠ .null

theorem restores_text : Restores .string asText? := ⟨fun _ => rfl, fun _ => Json.noConfusion⟩

theorem restores_float : Restores ofFloat asFloat? := ⟨fun _ => rfl, fun _ => Json.noConfusion⟩

theorem asNatural?_ofNat {limit n : Nat} (hlimit : n ≤ limit) (hn : n < UInt64.size) :
    asNatural? limit (ofNat n) = some n := by
  have hword : n.toUInt64.toNat = n := UInt64.toNat_ofNat_of_lt hn
  simp only [asNatural?, ofNat, hword, if_pos hlimit]

section Fields

variable {α : Type} {encode : α → Json} {decode : Json → Option α}

theorem Restores.option (h : Restores encode decode) (a : α) :
    asOption? decode (encode a) = some (some a) := by
  have hnull := h.notNull a
  unfold asOption?
  split
  · contradiction
  · rw [h.restored, Option.map_some]

theorem Restores.list (h : Restores encode decode) : Restores (ofList encode) (asList? decode) where
  restored as := by
    change (as.map encode).mapM decode = some as
    induction as with
    | nil => rfl
    | cons a as ih => simp [h.restored, ih]
  notNull _ := Json.noConfusion

@[simp] theorem named_nil (name : String) : named name [] = [] := rfl

@[simp] theorem named_cons (name key : String) (v : Json) (members : List (String × Json)) :
    named name ((key, v) :: members) =
      if key = name then v :: named name members else named name members := by
  by_cases h : key = name <;> simp [named, h]

@[simp] theorem named_append (name : String) (front back : List (String × Json)) :
    named name (front ++ back) = named name front ++ named name back := by
  simp [named]

@[simp] theorem named_optional (name key : String) (f : α → Json) (a : Option α) :
    named name (optional key f a) = if key = name then (a.map f).toList else [] := by
  cases a with
  | none => simp [optional]
  | some a => simp [optional]

variable {name : String} {members : List (String × Json)}

theorem field_eq (h : Restores encode decode) {a : α} (hnamed : named name members = [encode a]) :
    field name decode members = some a := by
  rw [field, hnamed]
  exact h.restored a

theorem fieldOr_eq (h : Restores encode decode) {a default : α}
    (hnamed : named name members = [encode a]) : fieldOr name default decode members = some a := by
  rw [fieldOr, hnamed]
  exact h.restored a

theorem fieldOption_eq (h : Restores encode decode) {a : Option α}
    (hnamed : named name members = (a.map encode).toList) :
    fieldOption name decode members = some a := by
  rw [fieldOption, fieldOr, hnamed]
  cases a with
  | none => rfl
  | some a => exact h.option a

end Fields

/-! ## Legible values -/

theorem Legible.mono {depth depth' : Nat} {v : Json} (h : v.Legible depth) (hle : depth ≤ depth') :
    v.Legible depth' := by
  induction h generalizing depth' with
  | null => exact .null
  | bool b => exact .bool b
  | number hn => exact .number hn
  | string s => exact .string s
  | array _ ih =>
    obtain ⟨d, rfl⟩ := Nat.exists_eq_add_of_le' (Nat.le_trans (Nat.le_add_left 1 _) hle)
    exact .array fun v hv => ih v hv (Nat.le_of_succ_le_succ hle)
  | object _ ih =>
    obtain ⟨d, rfl⟩ := Nat.exists_eq_add_of_le' (Nat.le_trans (Nat.le_add_left 1 _) hle)
    exact .object fun m hm => ih m hm (Nat.le_of_succ_le_succ hle)

theorem legible_ofFloat {depth : Nat} {x : Float} (h : ReadsBack x) : (ofFloat x).Legible depth :=
  .number h.legible

theorem legible_ofNat (depth n : Nat) : (ofNat n).Legible depth :=
  .number (Number.legible_natural n.toUInt64)

theorem legible_ofList {α : Type} {depth : Nat} {encode : α → Json} {as : List α}
    (h : ∀ a ∈ as, (encode a).Legible depth) : (ofList encode as).Legible (depth + 1) :=
  .array (List.forall_mem_map.2 h)

/-- Members whose values are legible. -/
def LegibleMembers (depth : Nat) (members : List (String × Json)) : Prop :=
  ∀ m ∈ members, m.2.Legible depth

theorem legibleMembers_nil (depth : Nat) : LegibleMembers depth [] :=
  fun _ hm => absurd hm List.not_mem_nil

theorem legibleMembers_cons {depth : Nat} {key : String} {v : Json}
    {members : List (String × Json)} : LegibleMembers depth ((key, v) :: members) ↔
      v.Legible depth ∧ LegibleMembers depth members :=
  List.forall_mem_cons

theorem legibleMembers_append {depth : Nat} {front back : List (String × Json)} :
    LegibleMembers depth (front ++ back) ↔
      LegibleMembers depth front ∧ LegibleMembers depth back :=
  List.forall_mem_append

theorem legibleMembers_optional {α : Type} {depth : Nat} {f : α → Json} {a : Option α}
    (name : String) (h : ∀ x ∈ a, (f x).Legible depth) :
    LegibleMembers depth (optional name f a) := by
  cases a with
  | none => exact legibleMembers_nil depth
  | some x => exact legibleMembers_cons.2 ⟨h x rfl, legibleMembers_nil depth⟩

end Json

/-! ## In the order of the text -/

namespace Reading

theorem foldMembers_cons {σ : Type} {step : σ → String → Reading → Except DocumentError σ} {d d' : σ}
    {key : String} {v : Json} (members : List (String × Json)) (h : step d key v.reading = .ok d') :
    foldMembers step d (Json.memberReadings ((key, v) :: members)) =
      foldMembers step d' (Json.memberReadings members) := by
  simp [Json.memberReadings, foldMembers, text, decoded, h, bind, Except.bind, Except.mapError]

theorem asList_reading {α : Type} {encode : α → Json} {decode : Reading → Except DocumentError α}
    {as : List α} (h : ∀ a ∈ as, decode (encode a).reading = .ok a) :
    asList decode (Json.ofList encode as).reading = .ok as := by
  have hitems : (Json.itemReadings (as.map encode)).mapM decode = .ok as := by
    induction as with
    | nil => rfl
    | cons a as ih =>
      obtain ⟨ha, has⟩ := List.forall_mem_cons.1 h
      simp [Json.itemReadings, ha, ih has, bind, Except.bind, pure, Except.pure]
  exact bind_eq_ok.2 ⟨as, hitems, rfl⟩

end Reading

end Multimodal
