import Annotations.Action
import Mathlib.Control.Basic

/-!
Properties of computations that sequencing keeps, such as that a computation keeps an invariant.
Tables of answers need more: the outcome is the same from all states that meet one.
-/
namespace Annotations
namespace Action

variable {σ : Type} {α β : Type}

/-- A property of computations that sequencing keeps. -/
structure Closed (P : ∀ {α : Type}, Action σ α → Prop) : Prop where
  pure : ∀ {α : Type} (a : α), P (Pure.pure a : Action σ α)
  throw : ∀ {α : Type} (e : Error), P (throw e : Action σ α)
  bind : ∀ {α β : Type} {f : Action σ α} {k : α → Action σ β}, P f → (∀ a, P (k a)) → P (f >>= k)

namespace Closed

variable {P : ∀ {α : Type}, Action σ α → Prop}

theorem lift (h : Closed P) (outcome : Except Error α) : P (liftM outcome : Action σ α) := by
  cases outcome with
  | ok a => exact h.pure a
  | error e => exact h.throw e

theorem map (h : Closed P) (g : α → β) {f : Action σ α} (hf : P f) : P (g <$> f) := by
  rw [map_eq_pure_bind]
  exact h.bind hf fun a => h.pure (g a)

theorem mapM (h : Closed P) {f : α → Action σ β} (hf : ∀ a, P (f a)) (items : List α) :
    P (items.mapM f) := by
  induction items with
  | nil =>
    rw [List.mapM_nil]
    exact h.pure []
  | cons item rest ih =>
    rw [List.mapM_cons]
    exact h.bind (hf item) fun b => h.bind ih fun bs => h.pure (b :: bs)

end Closed

/-- A computation never leaves an invariant. -/
def Keeps (I : σ → Prop) (f : Action σ α) : Prop := ∀ s, I s → I (f s).2

theorem Keeps.closed (I : σ → Prop) : Closed (Keeps I) where
  pure _ _ h := h
  throw _ _ h := h
  bind {_ _ f k} hf hk s hs := by
    have after := hf s hs
    rw [bind_apply]
    cases h : (f s).1 with
    | ok a => exact hk a _ after
    | error e => exact after

/-- From states that meet an invariant a computation has one outcome, and it keeps the invariant. -/
def Steady (I : σ → Prop) (f : Action σ α) : Prop :=
  ∀ s t, I s → I t → (f s).1 = (f t).1 ∧ I (f s).2

theorem Steady.keeps {I : σ → Prop} {f : Action σ α} (h : Steady I f) : Keeps I f :=
  fun s hs => (h s s hs hs).2

/-- From every state that meets an invariant a computation has a given outcome. -/
def Computes (I : σ → Prop) (f : Action σ α) (outcome : Except Error α) : Prop :=
  ∀ s, I s → (f s).1 = outcome ∧ I (f s).2

namespace Computes

variable {I : σ → Prop}

theorem steady {f : Action σ α} {outcome : Except Error α} (h : Computes I f outcome) :
    Steady I f :=
  fun s t hs ht => ⟨(h s hs).1.trans (h t ht).1.symm, (h s hs).2⟩

/-- What keeps another invariant has the same outcome where both are met. -/
theorem keeping {J : σ → Prop} {f : Action σ α} {outcome : Except Error α}
    (h : Computes I f outcome) (keeps : Keeps J f) :
    Computes (fun s => I s ∧ J s) f outcome := fun s hs => by
  obtain ⟨result, after⟩ := h s hs.1
  exact ⟨result, after, keeps s hs.2⟩

theorem pure (a : α) : Computes I (Pure.pure a) (.ok a) := fun _ hs => ⟨rfl, hs⟩

theorem throw (e : Error) : Computes I (throw e : Action σ α) (.error e) := fun _ hs => ⟨rfl, hs⟩

theorem lift (outcome : Except Error α) : Computes I (liftM outcome) outcome := fun s hs => by
  rw [lift_apply]
  exact ⟨rfl, hs⟩

theorem bind {f : Action σ α} {k : α → Action σ β} {outcome : Except Error α}
    {next : α → Except Error β} (hf : Computes I f outcome)
    (hk : ∀ a, outcome = .ok a → Computes I (k a) (next a)) :
    Computes I (f >>= k) (outcome >>= next) := fun s hs => by
  obtain ⟨result, after⟩ := hf s hs
  rw [bind_apply, result]
  cases outcome with
  | ok a => exact hk a rfl _ after
  | error e => exact ⟨rfl, after⟩

theorem map {f : Action σ α} {outcome : Except Error α} (g : α → β) (hf : Computes I f outcome) :
    Computes I (g <$> f) (g <$> outcome) := fun s hs => by
  obtain ⟨result, after⟩ := hf s hs
  rw [map_apply, result]
  exact ⟨rfl, after⟩

end Computes
end Action
end Annotations
