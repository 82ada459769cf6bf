import Annotations.Error

/-!
Computations that may fail over a state that outlives their failure, and what each way of putting
them together does to a state.
-/
namespace Annotations

/-- Computations over a state that outlives their failure. -/
abbrev Action (σ : Type) (α : Type) := ExceptT Error (StateM σ) α

namespace Action

variable {σ α β : Type}

@[simp] theorem pure_apply (a : α) (s : σ) : (pure a : Action σ α) s = (.ok a, s) := rfl

@[simp] theorem throw_apply (e : Error) (s : σ) : (throw e : Action σ α) s = (.error e, s) := rfl

@[simp] theorem lift_apply (outcome : Except Error α) (s : σ) :
    (liftM outcome : Action σ α) s = (outcome, s) := by
  cases outcome <;> rfl

@[simp] theorem get_apply (s : σ) : (get : Action σ σ) s = (.ok s, s) := rfl

@[simp] theorem modify_apply (f : σ → σ) (s : σ) :
    (modify f : Action σ PUnit) s = (.ok ⟨⟩, f s) := rfl

theorem bind_apply (f : Action σ α) (k : α → Action σ β) (s : σ) :
    (f >>= k) s = match (f s).1 with
      | .ok a => k a (f s).2
      | .error e => (.error e, (f s).2) := by
  change ExceptT.bindCont k (f s).1 (f s).2 = _
  cases (f s).1 <;> rfl

theorem bind_of_ok {f : Action σ α} {k : α → Action σ β} {s s' : σ} {a : α}
    (h : f s = (.ok a, s')) : (f >>= k) s = k a s' := by
  rw [bind_apply, h]

theorem bind_eq_ok {f : Action σ α} {k : α → Action σ β} {s s' : σ} {b : β}
    (h : (f >>= k) s = (.ok b, s')) : ∃ a between, f s = (.ok a, between) ∧ k a between = (.ok b, s') := by
  rw [bind_apply] at h
  generalize f s = ends at h ⊢
  obtain ⟨outcome, between⟩ := ends
  cases outcome with
  | ok a => exact ⟨a, between, rfl, h⟩
  | error e => cases h

theorem map_apply (g : α → β) (f : Action σ α) (s : σ) :
    (g <$> f) s = ((f s).1.map g, (f s).2) := by
  change (ExceptT.map g f) s = _
  simp only [ExceptT.map, ExceptT.mk, bind, StateT.bind]
  obtain ⟨outcome, after⟩ := f s
  cases outcome <;> rfl

end Action

namespace Outcome

variable {α β : Type}

theorem bind_ok {outcome : Except Error α} {next : α → Except Error β} {b : β}
    (h : (outcome >>= next) = .ok b) : ∃ a, outcome = .ok a ∧ next a = .ok b := by
  cases outcome with
  | ok a => exact ⟨a, rfl, h⟩
  | error e => cases h

theorem bind_error {outcome : Except Error α} {next : α → Except Error β} {e : Error}
    (h : (outcome >>= next) = .error e) :
    outcome = .error e ∨ ∃ a, outcome = .ok a ∧ next a = .error e := by
  cases outcome with
  | ok a => exact .inr ⟨a, rfl, h⟩
  | error e' =>
    cases h
    exact .inl rfl

theorem map_ok {outcome : Except Error α} {f : α → β} {b : β} (h : f <$> outcome = .ok b) :
    ∃ a, outcome = .ok a ∧ f a = b := by
  cases outcome with
  | ok a =>
    cases h
    exact ⟨a, rfl, rfl⟩
  | error e => cases h

theorem ok_of_isOk {outcome : Except Error α} (h : outcome.isOk = true) :
    ∃ a, outcome = .ok a := by
  cases outcome with
  | ok a => exact ⟨a, rfl⟩
  | error e => cases h

theorem ok_of_toOption {outcome : Except Error α} {a : α} (h : outcome.toOption = some a) :
    outcome = .ok a := by
  cases outcome with
  | ok b =>
    cases h
    rfl
  | error e => cases h

theorem error_of_map {outcome : Except Error α} {f : α → β} {e : Error}
    (h : outcome.map f = .error e) : outcome = .error e := by
  cases outcome with
  | ok a => cases h
  | error e' =>
    cases h
    rfl

end Outcome
end Annotations
