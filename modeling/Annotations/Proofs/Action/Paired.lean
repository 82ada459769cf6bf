import Annotations.Proofs.Action.Coupled
import Mathlib.Data.List.Forall2

/-!
Two computations over related states that both succeed, with related results, or both fail, with
related errors. Unlike alike computations they need not fail with one error.
-/
namespace Annotations

variable {σ τ α α' β β' : Type}

/-- Two errors that both end a search, or of which neither does. -/
def Error.SameReach (e e' : Error) : Prop := e.isConfiguration = e'.isConfiguration

/-- Two outcomes are results or errors, both of them. -/
inductive Outcome.Meet (Q : α → α' → Prop) (E : Error → Error → Prop) :
    Except Error α → Except Error α' → Prop
  | ok {a : α} {a' : α'} : Q a a' → Meet Q E (.ok a) (.ok a')
  | error {e e' : Error} : E e e' → Meet Q E (.error e) (.error e')

theorem Outcome.Meet.bind {Q : α → α' → Prop} {Q' : β → β' → Prop} {E : Error → Error → Prop}
    {outcome : Except Error α} {outcome' : Except Error α'} {k : α → Except Error β}
    {l : α' → Except Error β'} (h : Outcome.Meet Q E outcome outcome')
    (hk : ∀ a a', Q a a' → Outcome.Meet Q' E (k a) (l a')) :
    Outcome.Meet Q' E (outcome >>= k) (outcome' >>= l) := by
  cases h with
  | ok related => exact hk _ _ related
  | error related => exact .error related

theorem Outcome.Meet.map {Q : α → α' → Prop} {Q' : β → β' → Prop} {E : Error → Error → Prop}
    {outcome : Except Error α} {outcome' : Except Error α'} {m : α → β} {m' : α' → β'}
    (h : Outcome.Meet Q E outcome outcome') (results : ∀ a a', Q a a' → Q' (m a) (m' a')) :
    Outcome.Meet Q' E (outcome.map m) (outcome'.map m') := by
  cases h with
  | ok related => exact .ok (results _ _ related)
  | error related => exact .error related

theorem Outcome.Meet.mono {Q P : α → α' → Prop} {E E' : Error → Error → Prop}
    {outcome : Except Error α} {outcome' : Except Error α'} (h : Outcome.Meet Q E outcome outcome')
    (results : ∀ a a', Q a a' → P a a') (errors : ∀ e e', E e e' → E' e e') :
    Outcome.Meet P E' outcome outcome' := by
  cases h with
  | ok related => exact .ok (results _ _ related)
  | error related => exact .error (errors _ _ related)

theorem Outcome.Meet.sharpen {Q P : α → α' → Prop} {E : Error → Error → Prop}
    {outcome : Except Error α} {outcome' : Except Error α'} (h : Outcome.Meet Q E outcome outcome')
    (results : ∀ a a', outcome = .ok a → outcome' = .ok a' → P a a') :
    Outcome.Meet P E outcome outcome' := by
  cases h with
  | ok _ => exact .ok (results _ _ rfl rfl)
  | error related => exact .error related

namespace Action

/-- From related states two computations both succeed or both fail, and lead to related states. -/
def Paired (R : σ → τ → Prop) (Q : α → α' → Prop) (E : Error → Error → Prop)
    (f : Action σ α) (g : Action τ α') : Prop :=
  ∀ s t, R s t → Outcome.Meet Q E (f s).1 (g t).1 ∧ R (f s).2 (g t).2

namespace Paired

variable {R : σ → τ → Prop} {Q : α → α' → Prop} {Q' : β → β' → Prop} {E : Error → Error → Prop}
  {f : Action σ α} {g : Action τ α'}

theorem pure {a : α} {a' : α'} (h : Q a a') : Paired R Q E (Pure.pure a) (Pure.pure a') :=
  fun _ _ hs => ⟨.ok h, hs⟩

theorem throw {e e' : Error} (h : E e e') :
    Paired R Q E (throw e : Action σ α) (throw e' : Action τ α') :=
  fun _ _ hs => ⟨.error h, hs⟩

theorem lift {outcome : Except Error α} {outcome' : Except Error α'}
    (h : Outcome.Meet Q E outcome outcome') : Paired R Q E (liftM outcome) (liftM outcome') := by
  cases h with
  | ok related => exact pure related
  | error related => exact throw related

theorem bind {k : α → Action σ β} {l : α' → Action τ β'} (hf : Paired R Q E f g)
    (hk : ∀ a a', Q a a' → Paired R Q' E (k a) (l a')) : Paired R Q' E (f >>= k) (g >>= l) := by
  intro s t hs
  obtain ⟨meet, after⟩ := hf s t hs
  rw [bind_apply, bind_apply]
  generalize (f s).1 = left at meet
  generalize (g t).1 = right at meet
  cases meet with
  | ok related => exact hk _ _ related _ _ after
  | error related => exact ⟨.error related, after⟩

theorem map {γ γ' : Type} {P : γ → γ' → Prop} {m : α → γ} {m' : α' → γ'} (hf : Paired R Q E f g)
    (results : ∀ a a', Q a a' → P (m a) (m' a')) : Paired R P E (m <$> f) (m' <$> g) := by
  rw [map_eq_pure_bind, map_eq_pure_bind]
  exact hf.bind fun a a' related => .pure (results a a' related)

theorem mapM {P : α → α' → Prop} {S : β → β' → Prop} {f : α → Action σ β} {g : α' → Action τ β'}
    {items : List α} {items' : List α'}
    (each : ∀ item item', P item item' → Paired R S E (f item) (g item'))
    (h : List.Forall₂ P items items') :
    Paired R (List.Forall₂ S) E (items.mapM f) (items'.mapM g) := by
  induction h with
  | nil =>
    rw [List.mapM_nil, List.mapM_nil]
    exact pure .nil
  | cons here _ later =>
    rw [List.mapM_cons, List.mapM_cons]
    exact (each _ _ here).bind fun b b' first => later.bind fun bs bs' rest => pure (.cons first rest)

theorem mono {P : α → α' → Prop} {E' : Error → Error → Prop} (h : Paired R Q E f g)
    (results : ∀ a a', Q a a' → P a a') (errors : ∀ e e', E e e' → E' e e') : Paired R P E' f g :=
  fun s t hs => ⟨(h s t hs).1.mono results errors, (h s t hs).2⟩

theorem of_alike {f : Action σ α} {g : Action τ α} (refl : ∀ e, E e e) (h : Alike R f g) :
    Paired R Eq E f g := by
  intro s t hs
  obtain ⟨same, after⟩ := h.outcome hs
  refine ⟨?_, after⟩
  rw [same]
  cases (g t).1 with
  | ok a => exact .ok rfl
  | error e => exact .error (refl e)

end Paired
end Action
end Annotations
