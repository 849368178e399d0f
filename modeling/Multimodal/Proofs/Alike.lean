import Mathlib
import Multimodal.Modification.Step

/-! # Operations that do alike

Two runs of an operation from different states can be compared step by step: from states that are
related, both answer or both fail, and what they answer and leave is related again.

* `SameResult`, `SameAnswer`: related answers and states, or the same error.
* `Alike`: the results are the same from any two related states.
* `Alike.bind`, `Alike.forM`, `Alike.mapM`: composed operations.
* `Alike.target`, `Alike.edit`, `Alike.warn`, `Alike.fail`: the steps of a modification.
-/

namespace Multimodal

section Rules

variable {ε σ τ α β γ δ : Type}

def SameResult (R : σ → τ → Prop) (V : α → β → Prop) :
    EStateM.Result ε σ α → EStateM.Result ε τ β → Prop
  | .ok a s, .ok b t => V a b ∧ R s t
  | .error e s, .error e' t => e = e' ∧ R s t
  | _, _ => False

/-- Related answers, or the same error. -/
def SameAnswer (V : α → β → Prop) : Except ε α → Except ε β → Prop
  | .ok a, .ok b => V a b
  | .error e, .error e' => e = e'
  | _, _ => False

/-- Results that are the same are both answers or both failures. -/
theorem SameResult.cases {R : σ → τ → Prop} {V : α → β → Prop} {x : EStateM.Result ε σ α}
    {y : EStateM.Result ε τ β} (h : SameResult R V x y) :
    (∃ a s b t, x = .ok a s ∧ y = .ok b t ∧ V a b ∧ R s t) ∨
      ∃ e s t, x = .error e s ∧ y = .error e t ∧ R s t := by
  rcases x with ⟨a, s⟩ | ⟨e, s⟩ <;> rcases y with ⟨b, t⟩ | ⟨e', t⟩
  case ok.ok => exact .inl ⟨a, s, b, t, rfl, rfl, h⟩
  case ok.error => exact h.elim
  case error.ok => exact h.elim
  case error.error =>
    obtain ⟨rfl, hst⟩ := h
    exact .inr ⟨e, s, t, rfl, rfl, hst⟩

theorem SameAnswer.cases {V : α → β → Prop} {x : Except ε α} {y : Except ε β}
    (h : SameAnswer V x y) :
    (∃ a b, x = .ok a ∧ y = .ok b ∧ V a b) ∨ ∃ e, x = .error e ∧ y = .error e := by
  rcases x with e | a <;> rcases y with e' | b
  case ok.ok => exact .inl ⟨a, b, rfl, rfl, h⟩
  case ok.error => exact h.elim
  case error.ok => exact h.elim
  case error.error =>
    obtain rfl : e = e' := h
    exact .inr ⟨e, rfl, rfl⟩

/-- From related states the operations have the same result, up to the relations on the states and on
the answers. -/
def Alike (R : σ → τ → Prop) (V : α → β → Prop) (x : EStateM ε σ α) (y : EStateM ε τ β) : Prop :=
  ∀ s t, R s t → SameResult R V (x s) (y t)

namespace Alike

variable {R : σ → τ → Prop} {V : α → β → Prop} {W : γ → δ → Prop} {x : EStateM ε σ α}
  {y : EStateM ε τ β}

protected theorem pure {a : α} {b : β} (h : V a b) :
    Alike R V (pure a : EStateM ε σ α) (pure b : EStateM ε τ β) := fun _ _ hst => ⟨h, hst⟩

protected theorem get : Alike R R (get : EStateM ε σ σ) (get : EStateM ε τ τ) :=
  fun _ _ hst => ⟨hst, hst⟩

protected theorem modify {f : σ → σ} {g : τ → τ} (h : ∀ s t, R s t → R (f s) (g t)) :
    Alike R Eq (modify f : EStateM ε σ PUnit) (modify g : EStateM ε τ PUnit) :=
  fun s t hst => ⟨rfl, h s t hst⟩

protected theorem bind {k : α → EStateM ε σ γ} {l : β → EStateM ε τ δ} (hxy : Alike R V x y)
    (hkl : ∀ a b, V a b → Alike R W (k a) (l b)) : Alike R W (x >>= k) (y >>= l) := by
  intro s t hst
  show SameResult R W (EStateM.bind x k s) (EStateM.bind y l t)
  unfold EStateM.bind
  rcases (hxy s t hst).cases with ⟨a, s', b, t', hx, hy, hab, hst'⟩ | ⟨e, s', t', hx, hy, hst'⟩
  · rw [hx, hy]
    exact hkl a b hab s' t' hst'
  · rw [hx, hy]
    exact ⟨rfl, hst'⟩

/-- Loops over two lists of which the first is made from the second entry by entry. -/
protected theorem forM {f : δ → γ} {k : γ → EStateM ε σ PUnit} {l : δ → EStateM ε τ PUnit}
    {ds : List δ} (h : ∀ d ∈ ds, Alike R Eq (k (f d)) (l d)) :
    Alike R Eq ((ds.map f).forM k) (ds.forM l) := by
  induction ds with
  | nil => exact Alike.pure rfl
  | cons d ds ih =>
    show Alike R Eq (k (f d) >>= fun _ => (ds.map f).forM k) (l d >>= fun _ => ds.forM l)
    refine Alike.bind (h d List.mem_cons_self) fun _ _ _ => ih fun d' hd' => ?_
    exact h d' (List.mem_cons_of_mem d hd')

protected theorem mapM {f : δ → γ} {k : γ → EStateM ε σ α} {l : δ → EStateM ε τ α} {ds : List δ}
    (h : ∀ d ∈ ds, Alike R Eq (k (f d)) (l d)) :
    Alike R Eq ((ds.map f).mapM k) (ds.mapM l) := by
  induction ds with
  | nil =>
    rw [List.map_nil, List.mapM_nil, List.mapM_nil]
    exact Alike.pure rfl
  | cons d ds ih =>
    rw [List.map_cons, List.mapM_cons, List.mapM_cons]
    refine Alike.bind (h d List.mem_cons_self) ?_
    rintro a _ rfl
    refine Alike.bind (ih fun d' hd' => h d' (List.mem_cons_of_mem d hd')) ?_
    rintro as _ rfl
    exact Alike.pure rfl

protected theorem forM_same {k : γ → EStateM ε σ PUnit} {l : γ → EStateM ε τ PUnit} {cs : List γ}
    (h : ∀ c ∈ cs, Alike R Eq (k c) (l c)) : Alike R Eq (cs.forM k) (cs.forM l) := by
  have hloops := Alike.forM (f := id) (k := k) h
  rwa [List.map_id] at hloops

protected theorem mapM_same {k : γ → EStateM ε σ α} {l : γ → EStateM ε τ α} {cs : List γ}
    (h : ∀ c ∈ cs, Alike R Eq (k c) (l c)) : Alike R Eq (cs.mapM k) (cs.mapM l) := by
  have hloops := Alike.mapM (f := id) (k := k) h
  rwa [List.map_id] at hloops

end Alike

end Rules

/-! ## Steps of a modification -/

section Steps

variable {σ τ α β : Type}

/-- What is changed is related, and the remarks are the same. -/
structure Worksite.Related (R : σ → τ → Prop) (w : Worksite σ) (w' : Worksite τ) : Prop where
  target : R w.target w'.target
  diagnostics : w.diagnostics = w'.diagnostics

namespace Alike

variable {R : σ → τ → Prop} {V : α → β → Prop}

protected theorem target :
    Alike (Worksite.Related R) R (Step.target : Step σ σ) (Step.target : Step τ τ) :=
  fun _ _ h => ⟨h.target, h⟩

protected theorem edit {x : Edit σ α} {y : Edit τ β} (h : Alike R V x y) :
    Alike (Worksite.Related R) V (Step.edit x) (Step.edit y) := by
  intro w w' hw
  unfold Step.edit
  rcases (h w.target w'.target hw.target).cases with ⟨a, s, b, t, hx, hy, hab, hst⟩ |
    ⟨e, s, t, hx, hy, hst⟩
  · rw [hx, hy]
    exact ⟨hab, hst, hw.diagnostics⟩
  · rw [hx, hy]
    exact ⟨rfl, hst, hw.diagnostics⟩

protected theorem warn {r : Remark} :
    Alike (Worksite.Related R) Eq (Step.warn r : Step σ Unit) (Step.warn r : Step τ Unit) :=
  Alike.modify fun _ _ h => ⟨h.target, congrArg (·.warn r) h.diagnostics⟩

protected theorem fail {r : Remark} :
    Alike (Worksite.Related R) V (Step.fail r : Step σ α) (Step.fail r : Step τ β) :=
  fun _ _ h => ⟨rfl, h.target, congrArg (·.warn r) h.diagnostics⟩

end Alike

end Steps

end Multimodal
