import Annotations.Proofs.Action.Closed

/-!
Two computations over related states that end alike: both with results that fit, or both with one
error.
-/
namespace Annotations
namespace Action

variable {σ τ α α' β β' : Type}

/-- How two computations end: with results and states that fit, or with one error and states that
fit it. -/
inductive Ends (Q : α → α' → σ → τ → Prop) (E : Error → σ → τ → Prop) :
    Except Error α × σ → Except Error α' × τ → Prop
  | ok {a : α} {a' : α'} {s : σ} {t : τ} : Q a a' s t → Ends Q E (.ok a, s) (.ok a', t)
  | error {e : Error} {s : σ} {t : τ} : E e s t → Ends Q E (.error e, s) (.error e, t)

/-- From related states two computations end alike. -/
def Coupled (R : σ → τ → Prop) (Q : α → α' → σ → τ → Prop) (E : Error → σ → τ → Prop)
    (f : Action σ α) (g : Action τ α') : Prop :=
  ∀ s t, R s t → Ends Q E (f s) (g t)

namespace Coupled

variable {R : σ → τ → Prop} {Q : α → α' → σ → τ → Prop} {Q' : β → β' → σ → τ → Prop}
  {E : Error → σ → τ → Prop}

theorem pure {a : α} {a' : α'} (h : ∀ s t, R s t → Q a a' s t) :
    Coupled R Q E (Pure.pure a) (Pure.pure a') :=
  fun s t hs => .ok (h s t hs)

theorem throw {e : Error} (h : ∀ s t, R s t → E e s t) :
    Coupled R Q E (throw e : Action σ α) (throw e : Action τ α') :=
  fun s t hs => .error (h s t hs)

/-- Results that fit fit further where that follows. -/
theorem mono {P : α → α' → σ → τ → Prop} {f : Action σ α} {g : Action τ α'}
    (h : Coupled R Q E f g) (results : ∀ a a' s t, Q a a' s t → P a a' s t) : Coupled R P E f g := by
  intro s t hs
  have ends := h s t hs
  generalize f s = left at ends
  generalize g t = right at ends
  cases ends with
  | ok fits => exact .ok (results _ _ _ _ fits)
  | error fits => exact .error fits

theorem bind {f : Action σ α} {g : Action τ α'} {k : α → Action σ β} {l : α' → Action τ β'}
    (hf : Coupled R Q E f g) (hk : ∀ a a', Coupled (Q a a') Q' E (k a) (l a')) :
    Coupled R Q' E (f >>= k) (g >>= l) := by
  intro s t hs
  have ends := hf s t hs
  rw [bind_apply, bind_apply]
  generalize f s = left at ends
  generalize g t = right at ends
  cases ends with
  | ok fits => exact hk _ _ _ _ fits
  | error fits => exact .error fits

theorem map {f : Action σ α} {g : Action τ α'} {m : α → β} {m' : α' → β'}
    (hf : Coupled R Q E f g) (hm : ∀ a a' s t, Q a a' s t → Q' (m a) (m' a') s t) :
    Coupled R Q' E (m <$> f) (m' <$> g) := by
  rw [map_eq_pure_bind, map_eq_pure_bind]
  exact hf.bind fun a a' => pure (hm a a')

end Coupled

/-- From related states two computations have one outcome and lead to related states. -/
def Alike (R : σ → τ → Prop) (f : Action σ α) (g : Action τ α) : Prop :=
  Coupled R (fun a a' s t => a = a' ∧ R s t) (fun _ => R) f g

theorem Alike.bind {R : σ → τ → Prop} {f : Action σ α} {g : Action τ α} {k : α → Action σ β}
    {l : α → Action τ β} (hf : Alike R f g) (hk : ∀ a, Alike R (k a) (l a)) :
    Alike R (f >>= k) (g >>= l) := by
  refine Coupled.bind hf fun a a' => ?_
  rintro s t ⟨rfl, hs⟩
  exact hk a s t hs

theorem Alike.pure {R : σ → τ → Prop} (a : α) : Alike R (Pure.pure a) (Pure.pure a) :=
  Coupled.pure fun _ _ hs => ⟨rfl, hs⟩

theorem Alike.throw {R : σ → τ → Prop} (e : Error) :
    Alike R (throw e : Action σ α) (throw e : Action τ α) :=
  Coupled.throw fun _ _ hs => hs

theorem Alike.map {R : σ → τ → Prop} {f : Action σ α} {g : Action τ α} (hf : Alike R f g)
    (m : α → β) : Alike R (m <$> f) (m <$> g) :=
  Coupled.map hf fun _ _ _ _ same => ⟨congrArg m same.1, same.2⟩

theorem Alike.closed (R : σ → σ → Prop) : Closed fun f => Alike R f f where
  pure := Alike.pure
  throw := Alike.throw
  bind := Alike.bind

theorem Alike.outcome {R : σ → τ → Prop} {f : Action σ α} {g : Action τ α} (h : Alike R f g)
    {s : σ} {t : τ} (hs : R s t) : (f s).1 = (g t).1 ∧ R (f s).2 (g t).2 := by
  have ends := h s t hs
  generalize f s = left at ends
  generalize g t = right at ends
  cases ends with
  | ok fits =>
    obtain ⟨rfl, after⟩ := fits
    exact ⟨rfl, after⟩
  | error fits => exact ⟨rfl, fits⟩

theorem Alike.of_outcome {R : σ → τ → Prop} {f : Action σ α} {g : Action τ α}
    (h : ∀ s t, R s t → (f s).1 = (g t).1 ∧ R (f s).2 (g t).2) : Alike R f g := by
  intro s t hs
  obtain ⟨same, after⟩ := h s t hs
  generalize f s = left at same after
  generalize g t = right at same after
  obtain ⟨outcome, s'⟩ := left
  obtain ⟨outcome', t'⟩ := right
  cases same
  cases outcome with
  | ok a => exact .ok ⟨rfl, after⟩
  | error e => exact .error after

/-- What keeps an invariant runs alike from one state. -/
theorem Keeps.alike {I : σ → Prop} {f : Action σ α} (h : Keeps I f) :
    Alike (fun s t => s = t ∧ I s) f f := by
  refine .of_outcome ?_
  rintro s t ⟨rfl, hs⟩
  exact ⟨rfl, rfl, h s hs⟩

/-- What does not depend on the state runs alike from any two. -/
theorem Steady.alike {I : σ → Prop} {f : Action σ α} (h : Steady I f) :
    Alike (fun s t => I s ∧ I t) f f := by
  refine .of_outcome ?_
  rintro s t ⟨hs, ht⟩
  exact ⟨(h s t hs ht).1, (h s t hs ht).2, h.keeps t ht⟩

end Action
end Annotations
