import Mathlib
import Multimodal.Modification.Basic

/-! # What an operation guarantees

Operations change a state and may fail on the way.  A guarantee says what holds afterwards, both when
the operation answers and when it fails, since what was done before a failure stays done.

* `Ensures`: from every state with a property, one property at the answer and one at the failure.
* `Keeps`: one property before, after the answer and after the failure.
* `Ensures.bind`, `Ensures.forM`, `Ensures.mapM`: guarantees of composed operations.
* `Ensures.target`, `Ensures.edit`, `Ensures.fail`: guarantees of the steps of a modification.
* `Ensures.of_apply_ok`, `Ensures.of_apply_error`, `Keeps.of_apply`: what follows for a whole one.
* `Step.onTransit_of_ok`, `Modification.apply_of_ok`: a whole one that changes a single layer.
* `Modification.Turns`, `Modification.Reshapes`: what a whole one makes of the timetable, or of the
  streets, that it was resolved against.
* `Yields`: the same for a computation without a state.
-/

namespace Multimodal

section Rules

variable {ε σ α β : Type}

/-- From every state with `P` the operation answers into `Q` or fails into `E`. -/
def Ensures (P : σ → Prop) (x : EStateM ε σ α) (Q : α → σ → Prop) (E : ε → σ → Prop) : Prop :=
  ∀ s, P s → match x s with
    | .ok a s' => Q a s'
    | .error e s' => E e s'

theorem bind_of_ok {x : EStateM ε σ α} {f : α → EStateM ε σ β} {s s' : σ} {a : α}
    (h : x s = .ok a s') : (x >>= f) s = f a s' := by
  show EStateM.bind x f s = f a s'
  unfold EStateM.bind
  rw [h]

theorem bind_of_error {x : EStateM ε σ α} {f : α → EStateM ε σ β} {s s' : σ} {e : ε}
    (h : x s = .error e s') : (x >>= f) s = .error e s' := by
  show EStateM.bind x f s = .error e s'
  unfold EStateM.bind
  rw [h]

/-- The operation fails in this state. -/
def Fails (x : EStateM ε σ α) (s : σ) : Prop := ∃ e s', x s = .error e s'

theorem not_fails_of_ok {x : EStateM ε σ α} {s s' : σ} {a : α} (h : x s = .ok a s') :
    ¬Fails x s := by
  rintro ⟨e, s'', hx⟩
  rw [h] at hx
  cases hx

/-- The operation keeps a property, whether it answers or fails. -/
def Keeps (I : σ → Prop) (x : EStateM ε σ α) : Prop := Ensures I x (fun _ => I) (fun _ => I)

namespace Ensures

variable {P I : σ → Prop} {x : EStateM ε σ α} {Q : α → σ → Prop} {E : ε → σ → Prop}

/-! ## Single operations -/

theorem ok {s s' : σ} {a : α} (h : Ensures P x Q E) (hs : P s) (hx : x s = .ok a s') : Q a s' := by
  have hres := h s hs
  rwa [hx] at hres

theorem error {s s' : σ} {e : ε} (h : Ensures P x Q E) (hs : P s) (hx : x s = .error e s') :
    E e s' := by
  have hres := h s hs
  rwa [hx] at hres

theorem mono {P' : σ → Prop} {Q' : α → σ → Prop} {E' : ε → σ → Prop} (h : Ensures P x Q E)
    (hP : ∀ s, P' s → P s) (hQ : ∀ a s, Q a s → Q' a s) (hE : ∀ e s, E e s → E' e s) :
    Ensures P' x Q' E' := by
  intro s hs
  have hres := h s (hP s hs)
  cases hx : x s with
  | ok a s' =>
    rw [hx] at hres
    exact hQ a s' hres
  | error e s' =>
    rw [hx] at hres
    exact hE e s' hres

protected theorem pure {a : α} (h : ∀ s, P s → Q a s) :
    Ensures P (pure a) Q E := h

protected theorem throw {e : ε} (h : ∀ s, P s → E e s) :
    Ensures P (throw e : EStateM ε σ α) Q E := h

protected theorem get {Q : σ → σ → Prop} (h : ∀ s, P s → Q s s) :
    Ensures P (get : EStateM ε σ σ) Q E := h

protected theorem modify {f : σ → σ} {Q : PUnit → σ → Prop} (h : ∀ s, P s → Q ⟨⟩ (f s)) :
    Ensures P (modify f : EStateM ε σ PUnit) Q E := h

/-! ## Composed operations -/

protected theorem bind {R : α → σ → Prop} {k : α → EStateM ε σ β} {Q : β → σ → Prop}
    (hx : Ensures P x R E) (hk : ∀ a, Ensures (R a) (k a) Q E) : Ensures P (x >>= k) Q E := by
  intro s hs
  have hres := hx s hs
  show match EStateM.bind x k s with | .ok b s' => Q b s' | .error e s' => E e s'
  unfold EStateM.bind
  cases h : x s with
  | ok a s' =>
    rw [h] at hres
    exact hk a s' hres
  | error e s' =>
    rw [h] at hres
    exact hres

protected theorem forM {l : List α} {f : α → EStateM ε σ PUnit}
    (h : ∀ a ∈ l, Ensures I (f a) (fun _ => I) E) : Ensures I (l.forM f) (fun _ => I) E := by
  induction l with
  | nil => exact Ensures.pure fun s hs => hs
  | cons a l ih =>
    show Ensures I (f a >>= fun _ => l.forM f) (fun _ => I) E
    refine Ensures.bind (h a List.mem_cons_self) fun _ => ih fun b hb => ?_
    exact h b (List.mem_cons_of_mem a hb)

protected theorem mapM {f : α → EStateM ε σ β} {l : List α}
    (h : ∀ a ∈ l, Ensures I (f a) (fun _ => I) E) : Ensures I (l.mapM f) (fun _ => I) E := by
  induction l with
  | nil =>
    rw [List.mapM_nil]
    exact Ensures.pure fun s hs => hs
  | cons a l ih =>
    rw [List.mapM_cons]
    refine Ensures.bind (h a List.mem_cons_self) fun b => ?_
    refine Ensures.bind (ih fun a' ha' => h a' (List.mem_cons_of_mem a ha')) fun bs => ?_
    exact Ensures.pure fun s hs => hs

end Ensures

namespace Keeps

variable {I : σ → Prop} {x : EStateM ε σ α}

protected theorem pure {a : α} : Keeps I (pure a : EStateM ε σ α) := Ensures.pure fun _ hs => hs

protected theorem throw {e : ε} : Keeps I (throw e : EStateM ε σ α) := Ensures.throw fun _ hs => hs

protected theorem get : Keeps I (get : EStateM ε σ σ) := Ensures.get fun _ hs => hs

protected theorem modify {f : σ → σ} (h : ∀ s, I s → I (f s)) :
    Keeps I (modify f : EStateM ε σ PUnit) := Ensures.modify h

protected theorem bind {k : α → EStateM ε σ β} (hx : Keeps I x) (hk : ∀ a, Keeps I (k a)) :
    Keeps I (x >>= k) := Ensures.bind hx hk

protected theorem forM {l : List α} {f : α → EStateM ε σ PUnit} (h : ∀ a ∈ l, Keeps I (f a)) :
    Keeps I (l.forM f) := Ensures.forM h

protected theorem mapM {l : List α} {f : α → EStateM ε σ β} (h : ∀ a ∈ l, Keeps I (f a)) :
    Keeps I (l.mapM f) := Ensures.mapM h

/-- What a change leaves behind has every property that the change keeps. -/
theorem attempt {edit : Edit σ α} (h : Keeps I edit) {s : σ} (hs : I s) :
    I (edit.attempt s).2 := by
  have hres := h s hs
  unfold Edit.attempt
  cases hx : edit s with
  | ok a s' =>
    rw [hx] at hres
    exact hres
  | error e s' =>
    rw [hx] at hres
    exact hres

end Keeps

end Rules

/-! ## Steps of a modification -/

section Steps

variable {σ α : Type}

theorem Step.target_apply (w : Worksite σ) : (Step.target : Step σ σ) w = .ok w.target w := rfl

theorem Step.edit_of_ok {e : Edit σ α} {w : Worksite σ} {a : α} {s : σ} (h : e w.target = .ok a s) :
    Step.edit e w = .ok a ⟨s, w.diagnostics⟩ := by
  unfold Step.edit
  rw [h]

theorem Step.edit_of_error {e : Edit σ α} {w : Worksite σ} {r : NetworkError} {s : σ}
    (h : e w.target = .error r s) :
    Step.edit e w = .error ⟨.refused r, 0⟩ ⟨s, w.diagnostics⟩ := by
  unfold Step.edit
  rw [h]

namespace Ensures

theorem target {P : σ → Prop} {Q : σ → Worksite σ → Prop} {E : StepFailure → Worksite σ → Prop}
    (h : ∀ w, P w.target → Q w.target w) :
    Ensures (fun w => P w.target) (Step.target : Step σ σ) Q E := fun w hw => h w hw

theorem edit {P : σ → Prop} {e : Edit σ α} {Q : α → σ → Prop} {E : NetworkError → σ → Prop}
    {F : StepFailure → σ → Prop} (h : Ensures P e Q E) (hE : ∀ r s, E r s → F ⟨.refused r, 0⟩ s) :
    Ensures (fun w => P w.target) (Step.edit e) (fun a w => Q a w.target)
      (fun f w => F f w.target) := by
  intro w hw
  have hres := h w.target hw
  unfold Step.edit
  cases hx : e w.target with
  | ok a s =>
    rw [hx] at hres
    exact hres
  | error r s =>
    rw [hx] at hres
    exact hE r s hres

theorem warn {I : σ → Prop} {r : Remark} {E : StepFailure → Worksite σ → Prop} :
    Ensures (fun w => I w.target) (Step.warn r : Step σ Unit) (fun _ w => I w.target) E :=
  fun _ hw => hw

theorem fail {P : σ → Prop} {r : Remark} {Q : α → Worksite σ → Prop} {F : StepFailure → σ → Prop}
    (h : ∀ s, P s → F ⟨r, 0⟩ s) :
    Ensures (fun w => P w.target) (Step.fail r : Step σ α) Q (fun f w => F f w.target) :=
  fun w hw => h w.target hw

end Ensures

namespace Keeps

variable {I : σ → Prop}

protected theorem target : Keeps (fun w => I w.target) (Step.target : Step σ σ) :=
  Ensures.target fun _ hw => hw

protected theorem edit {e : Edit σ α} (h : Keeps I e) :
    Keeps (fun w => I w.target) (Step.edit e) := Ensures.edit h fun _ _ hs => hs

protected theorem warn {r : Remark} : Keeps (fun w => I w.target) (Step.warn r : Step σ Unit) :=
  Ensures.warn

protected theorem fail {r : Remark} : Keeps (fun w => I w.target) (Step.fail r : Step σ α) :=
  Ensures.fail fun _ hs => hs

end Keeps

end Steps

/-! ## Whole modifications -/

section Modifications

variable {x x' : Modification} {n n' : Network}

section Guarantees

variable {P : Worksite Network → Prop} {Q : Unit → Worksite Network → Prop}
  {E : StepFailure → Worksite Network → Prop}

theorem Ensures.of_apply_ok (hx : Ensures P x.change.apply Q E) (hn : P ⟨n, x.diagnostics⟩)
    (h : x.apply n = (x', n', .ok ())) : Q () ⟨n', x'.diagnostics⟩ := by
  unfold Modification.apply at h
  cases hchange : x.change.apply ⟨n, x.diagnostics⟩ with
  | ok u w =>
    rw [hchange] at h
    cases h
    exact hx.ok hn hchange
  | error f w =>
    rw [hchange] at h
    cases h

theorem Ensures.of_apply_error {f : StepFailure} (hx : Ensures P x.change.apply Q E)
    (hn : P ⟨n, x.diagnostics⟩) (h : x.apply n = (x', n', .error f)) :
    E f ⟨n', x'.diagnostics⟩ := by
  unfold Modification.apply at h
  cases hchange : x.change.apply ⟨n, x.diagnostics⟩ with
  | ok u w =>
    rw [hchange] at h
    cases h
  | error g w =>
    rw [hchange] at h
    cases h
    exact hx.error hn hchange

end Guarantees

theorem Keeps.of_apply {I : Worksite Network → Prop} (hx : Keeps I x.change.apply)
    (hn : I ⟨n, x.diagnostics⟩) : I ⟨(x.apply n).2.1, (x.apply n).1.diagnostics⟩ := by
  rcases happly : x.apply n with ⟨x', n', f | ⟨⟩⟩
  · exact Ensures.of_apply_error hx hn happly
  · exact Ensures.of_apply_ok hx hn happly

end Modifications

/-! ## Changes of a single layer -/

namespace Step

variable {α : Type} {w w' : Worksite Network} {a : α}

theorem onStreet_of_ok {step : Step StreetLayer α} {s : Worksite StreetLayer}
    (hown : w.target.street.shared = false)
    (h : step ⟨w.target.street.content, w.diagnostics⟩ = .ok a s) :
    onStreet step w = .ok a ⟨{ w.target with street := ⟨s.target, false⟩ }, s.diagnostics⟩ := by
  unfold onStreet
  rw [hown, h]
  rfl

theorem onStreet_of_shared (step : Step StreetLayer α) (h : w.target.street.shared = true) :
    onStreet step w = .error ⟨.refused (.partShared .street), 0⟩ w := by
  unfold onStreet
  rw [if_pos h]

theorem onTransit_of_ok {step : Step TransitLayer α} {t : Worksite TransitLayer}
    (hown : w.target.transit.shared = false)
    (h : step ⟨w.target.transit.content, w.diagnostics⟩ = .ok a t) :
    onTransit step w = .ok a ⟨{ w.target with transit := ⟨t.target, false⟩ }, t.diagnostics⟩ := by
  unfold onTransit
  rw [hown, h]
  rfl

theorem onTransit_of_shared (step : Step TransitLayer α) (h : w.target.transit.shared = true) :
    onTransit step w = .error ⟨.refused (.partShared .transit), 0⟩ w := by
  unfold onTransit
  rw [if_pos h]

theorem of_onTransit_ok {step : Step TransitLayer α} (h : onTransit step w = .ok a w') :
    ∃ t, step ⟨w.target.transit.content, w.diagnostics⟩ = .ok a t ∧
      w'.target.transit.content = t.target := by
  unfold onTransit at h
  by_cases hshared : w.target.transit.shared = true
  · rw [if_pos hshared] at h
    cases h
  · rw [if_neg hshared] at h
    cases hstep : step ⟨w.target.transit.content, w.diagnostics⟩ with
    | error f t =>
      rw [hstep] at h
      cases h
    | ok b t =>
      rw [hstep] at h
      cases h
      exact ⟨t, rfl, rfl⟩

end Step

namespace Modification

variable {x x' : Modification} {n n' : Network}

theorem resolve_of_problems (m : Modification) {n : Network} (h : (m.change.resolve n).2 = []) :
    (m.resolve n).2 = .ok () := by
  show (m.diagnostics.check (m.change.resolve n).2).2 = .ok ()
  rw [h]
  rfl

theorem problems_eq_nil (m : Modification) {n : Network} (h : (m.resolve n).2 = .ok ()) :
    (m.change.resolve n).2 = [] := by
  have hcheck : (m.diagnostics.check (m.change.resolve n).2).2 = .ok () := h
  cases hproblems : (m.change.resolve n).2 with
  | nil => rfl
  | cons first rest =>
    rw [hproblems] at hcheck
    cases hcheck

theorem apply_of_ok {w : Worksite Network} (h : x.change.apply ⟨n, x.diagnostics⟩ = .ok () w) :
    x.apply n = (⟨x.change, w.diagnostics⟩, w.target, .ok ()) := by
  unfold apply
  rw [h]

theorem apply_of_error {f : StepFailure} {w : Worksite Network}
    (h : x.change.apply ⟨n, x.diagnostics⟩ = .error f w) :
    x.apply n = (⟨x.change, w.diagnostics⟩, w.target, .error f) := by
  unfold apply
  rw [h]

theorem of_apply_ok (h : x.apply n = (x', n', .ok ())) :
    x.change.apply ⟨n, x.diagnostics⟩ = .ok () ⟨n', x'.diagnostics⟩ := by
  have hself : Ensures (· = ⟨n, x.diagnostics⟩) x.change.apply
      (fun _ w => x.change.apply ⟨n, x.diagnostics⟩ = .ok () w) fun _ _ => True := by
    rintro w rfl
    cases x.change.apply ⟨n, x.diagnostics⟩ with
    | ok u w => rfl
    | error f w => trivial
  exact hself.of_apply_ok rfl h

/-- On the network that it was resolved against the modification goes through and leaves remarks and a
timetable like these; nothing else of the network is different.  It is refused, and nothing happens,
only if the timetable is shared. -/
structure Turns (x : Modification) (n : Network) (Q : Diagnostics → TransitLayer → Prop) :
    Prop where
  own : n.transit.shared = false → ∃ d t, Q d t ∧
    (x.resolve n).1.apply n =
      (⟨(x.resolve n).1.change, d⟩, { n with transit := ⟨t, false⟩ }, .ok ())
  shared : n.transit.shared = true → (x.resolve n).1.apply n =
    ((x.resolve n).1, n, .error ⟨.refused (.partShared .transit), 0⟩)

/-- A step on the timetable that goes through. -/
theorem Turns.of_onTransit {Q : Diagnostics → TransitLayer → Prop} {step : Step TransitLayer Unit}
    (hstep : (x.resolve n).1.change.apply = Step.onTransit step)
    (h : ∃ d t, Q d t ∧
      step ⟨n.transit.content, (x.resolve n).1.diagnostics⟩ = .ok () ⟨t, d⟩) : x.Turns n Q where
  own hown := by
    obtain ⟨d, t, hQ, ht⟩ := h
    have happly := Step.onTransit_of_ok (w := ⟨n, (x.resolve n).1.diagnostics⟩) hown ht
    rw [← hstep] at happly
    exact ⟨d, t, hQ, apply_of_ok happly⟩
  shared hshared := by
    have happly :=
      Step.onTransit_of_shared (w := ⟨n, (x.resolve n).1.diagnostics⟩) step hshared
    rw [← hstep] at happly
    exact apply_of_error happly

/-- On the network that it was resolved against the modification goes through and leaves streets like
these; nothing else of the network is different, and nothing is remarked.  It is refused, and nothing
happens, only if the streets are shared. -/
structure Reshapes (x : Modification) (n : Network) (Q : StreetLayer → Prop) : Prop where
  own : n.street.shared = false → ∃ s, Q s ∧
    (x.resolve n).1.apply n = ((x.resolve n).1, { n with street := ⟨s, false⟩ }, .ok ())
  shared : n.street.shared = true → (x.resolve n).1.apply n =
    ((x.resolve n).1, n, .error ⟨.refused (.partShared .street), 0⟩)

/-- A step on the streets that goes through without a remark. -/
theorem Reshapes.of_onStreet {Q : StreetLayer → Prop} {step : Step StreetLayer Unit}
    (hstep : (x.resolve n).1.change.apply = Step.onStreet step)
    (h : ∃ s, Q s ∧ step ⟨n.street.content, (x.resolve n).1.diagnostics⟩ =
      .ok () ⟨s, (x.resolve n).1.diagnostics⟩) : x.Reshapes n Q where
  own hown := by
    obtain ⟨s, hQ, hs⟩ := h
    have happly := Step.onStreet_of_ok (w := ⟨n, (x.resolve n).1.diagnostics⟩) hown hs
    rw [← hstep] at happly
    exact ⟨s, hQ, apply_of_ok happly⟩
  shared hshared := by
    have happly :=
      Step.onStreet_of_shared (w := ⟨n, (x.resolve n).1.diagnostics⟩) step hshared
    rw [← hstep] at happly
    exact apply_of_error happly

end Modification

/-! ## Computations without a state -/

section Computations

variable {ε α β : Type}

/-- The computation answers with one property or fails with another. -/
def Yields (x : Except ε α) (Q : α → Prop) (E : ε → Prop) : Prop :=
  match x with
  | .ok a => Q a
  | .error e => E e

namespace Yields

variable {E : ε → Prop}

protected theorem bind {x : Except ε α} {k : α → Except ε β} {P : α → Prop} {Q : β → Prop}
    (hx : Yields x P E) (hk : ∀ a, P a → Yields (k a) Q E) : Yields (x >>= k) Q E := by
  cases x with
  | ok a => exact hk a hx
  | error e => exact hx

protected theorem mapM {f : α → Except ε β} {Q : β → Prop} {l : List α}
    (h : ∀ a ∈ l, Yields (f a) Q E) : Yields (l.mapM f) (fun bs => ∀ b ∈ bs, Q b) E := by
  induction l with
  | nil =>
    rw [List.mapM_nil]
    exact fun b hb => absurd hb List.not_mem_nil
  | cons a l ih =>
    rw [List.mapM_cons]
    refine Yields.bind (h a List.mem_cons_self) fun b hb => ?_
    refine Yields.bind (ih fun a' ha' => h a' (List.mem_cons_of_mem a ha')) fun bs hbs => ?_
    exact List.forall_mem_cons.2 ⟨hb, hbs⟩

theorem ok_of_bind {x : Except ε α} {k : α → Except ε β} {b : β} (h : x >>= k = .ok b) :
    ∃ a, x = .ok a ∧ k a = .ok b := by
  cases x with
  | ok a => exact ⟨a, rfl, h⟩
  | error e => cases h

theorem forall₂_of_mapM {f : α → Except ε β} {l : List α} {bs : List β} (h : l.mapM f = .ok bs) :
    List.Forall₂ (fun a b => f a = .ok b) l bs := by
  induction l generalizing bs with
  | nil =>
    cases h
    exact List.Forall₂.nil
  | cons a l ih =>
    rw [List.mapM_cons] at h
    obtain ⟨b, hfirst, h⟩ := ok_of_bind h
    obtain ⟨bs', hrest, h⟩ := ok_of_bind h
    cases h
    exact List.Forall₂.cons hfirst (ih hrest)

theorem ok_of_mapM {f : α → Except ε β} {l : List α} {bs : List β} (h : l.mapM f = .ok bs) {a : α}
    (ha : a ∈ l) : ∃ b, f a = .ok b := by
  obtain ⟨i, hi, rfl⟩ := List.getElem_of_mem ha
  have hall := forall₂_of_mapM h
  exact ⟨_, hall.get hi (hall.length_eq ▸ hi)⟩

protected theorem forM {f : α → Except ε PUnit} {Q : α → Prop} {l : List α}
    (h : ∀ a ∈ l, Yields (f a) (fun _ => Q a) E) :
    Yields (l.forM f) (fun _ => ∀ a ∈ l, Q a) E := by
  induction l with
  | nil => exact fun a ha => absurd ha List.not_mem_nil
  | cons a l ih =>
    show Yields (f a >>= fun _ => l.forM f) _ E
    refine Yields.bind (h a List.mem_cons_self) fun _ ha => ?_
    have hrest := ih fun a' ha' => h a' (List.mem_cons_of_mem a ha')
    cases hl : l.forM f with
    | ok u =>
      rw [hl] at hrest
      exact List.forall_mem_cons.2 ⟨ha, hrest⟩
    | error e =>
      rw [hl] at hrest
      exact hrest

end Yields

end Computations

end Multimodal
