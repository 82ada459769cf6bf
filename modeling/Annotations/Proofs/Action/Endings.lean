import Annotations.Proofs.Action.Yields

/-!
How computations can end: which errors one can fail with, and that one succeeds from every state that
meets an invariant, with results of a kind, and keeps the invariant.
-/
namespace Annotations
namespace Action

variable {σ α β : Type} {E : Error → Prop} {I : σ → Prop} {P : α → Prop} {Q : β → Prop}

/-- A computation that fails with errors of a kind only. -/
def Raises (E : Error → Prop) (f : Action σ α) : Prop := ∀ s e, (f s).1 = .error e → E e

namespace Raises

theorem pure (a : α) : Raises E (Pure.pure a : Action σ α) := fun _ _ h => by cases h

theorem throw {e : Error} (kind : E e) : Raises E (throw e : Action σ α) := fun _ _ h => by
  cases h
  exact kind

theorem lift {outcome : Except Error α} (kind : ∀ e, outcome = .error e → E e) :
    Raises E (liftM outcome : Action σ α) := fun _ e h => by
  rw [lift_apply] at h
  exact kind e h

theorem bind {f : Action σ α} {k : α → Action σ β} (hf : Raises E f) (hk : ∀ a, Raises E (k a)) :
    Raises E (f >>= k) := fun s e h => by
  rw [bind_apply] at h
  cases first : (f s).1 with
  | ok a =>
    rw [first] at h
    exact hk a _ e h
  | error e' =>
    rw [first] at h
    cases h
    exact hf s e first

theorem get : Raises E (MonadState.get : Action σ σ) := fun _ _ h => by cases h

theorem modify (change : σ → σ) : Raises E (modify change : Action σ PUnit) := fun _ _ h => by
  cases h

/-- An error that some state leads to is one of the kind. -/
theorem yields {I : σ → Prop} {f : Action σ α} (hf : Raises E f) {e : Error}
    (h : Yields I f (.error e)) : E e := by
  obtain ⟨s, _, failed⟩ := h
  exact hf s e failed

end Raises

/-- From every state that meets an invariant a computation succeeds with a result that meets a
condition, and it keeps the invariant. -/
def Ensures (I : σ → Prop) (f : Action σ α) (P : α → Prop) : Prop :=
  ∀ s, I s → ∃ a, (f s).1 = .ok a ∧ P a ∧ I (f s).2

namespace Ensures

theorem pure {a : α} (h : P a) : Ensures I (Pure.pure a) P := fun _ hs => ⟨a, rfl, h, hs⟩

theorem bind {f : Action σ α} {k : α → Action σ β} (hf : Ensures I f P)
    (hk : ∀ a, P a → Ensures I (k a) Q) : Ensures I (f >>= k) Q := fun s hs => by
  obtain ⟨a, result, met, after⟩ := hf s hs
  rw [bind_apply, result]
  exact hk a met _ after

theorem mono {P' : α → Prop} {f : Action σ α} (h : Ensures I f P) (weaker : ∀ a, P a → P' a) :
    Ensures I f P' := fun s hs => by
  obtain ⟨a, result, met, after⟩ := h s hs
  exact ⟨a, result, weaker a met, after⟩

theorem of_computes {f : Action σ α} {a : α} (h : Computes I f (.ok a)) (met : P a) :
    Ensures I f P := fun s hs => by
  obtain ⟨result, after⟩ := h s hs
  exact ⟨a, result, met, after⟩

theorem lift {outcome : Except Error α} {a : α} (result : outcome = .ok a) (met : P a) :
    Ensures I (liftM outcome) P :=
  of_computes (result ▸ .lift outcome) met

/-- What every result that can come about meets is met by the results of a computation that
succeeds. -/
theorem of_yields {f : Action σ α} (succeeds : Ensures I f fun _ => True)
    (met : ∀ a, Yields I f (.ok a) → P a) : Ensures I f P := fun s hs => by
  obtain ⟨a, result, _, after⟩ := succeeds s hs
  exact ⟨a, result, met a ⟨s, hs, result⟩, after⟩

theorem met {f : Action σ α} (h : Ensures I f P) {a : α} (yields : Yields I f (.ok a)) : P a := by
  obtain ⟨s, hs, outcome⟩ := yields
  obtain ⟨a', result, met, _⟩ := h s hs
  cases outcome.symm.trans result
  exact met

theorem not_error {f : Action σ α} (h : Ensures I f P) {e : Error} : ¬ Yields I f (.error e) := by
  rintro ⟨s, hs, outcome⟩
  obtain ⟨_, result, _⟩ := h s hs
  cases outcome.symm.trans result

theorem mapM {f : α → Action σ β} {R : α → β → Prop} {items : List α}
    (each : ∀ item ∈ items, Ensures I (f item) (R item)) :
    Ensures I (items.mapM f) (List.Forall₂ R items) := by
  induction items with
  | nil =>
    rw [List.mapM_nil]
    exact .pure .nil
  | cons item rest ih =>
    rw [List.mapM_cons]
    refine (each item (.head rest)).bind fun head first => ?_
    exact (ih fun other mem => each other (.tail item mem)).bind fun tail later =>
      .pure (.cons first later)

end Ensures
end Action
end Annotations
