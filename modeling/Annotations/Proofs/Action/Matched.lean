import Annotations.Proofs.Action.Paired
import Annotations.Proofs.Action.Yields

/-!
Two computations that are each run from some state that meets one invariant, not necessarily the same
state: whatever the two states are, both computations succeed or both fail.
-/
namespace Annotations
namespace Action

variable {σ α α' : Type} {I : σ → Prop} {Q : α → α' → Prop} {E : Error → Error → Prop}
  {f : Action σ α} {g : Action σ α'}

/-- From any two states that meet an invariant two computations both succeed, with related results,
or both fail, with related errors, and keep the invariant. -/
abbrev Matched (I : σ → Prop) (Q : α → α' → Prop) (E : Error → Error → Prop) (f : Action σ α)
    (g : Action σ α') : Prop :=
  Paired (fun s t => I s ∧ I t) Q E f g

/-- Whatever keeps an invariant has an outcome from a state that meets it. -/
theorem Yields.outcome {s : σ} (hs : I s) (f : Action σ α) : Yields I f (f s).1 := ⟨s, hs, rfl⟩

namespace Matched

theorem of_yields (keeps : Keeps I f) (keeps' : Keeps I g)
    (meet : ∀ outcome outcome', Yields I f outcome → Yields I g outcome' →
      Outcome.Meet Q E outcome outcome') : Matched I Q E f g :=
  fun s t hs => ⟨meet _ _ (.outcome hs.1 f) (.outcome hs.2 g), keeps s hs.1, keeps' t hs.2⟩

variable (h : Matched I Q E f g)

include h

theorem meet {outcome : Except Error α} {outcome' : Except Error α'} (left : Yields I f outcome)
    (right : Yields I g outcome') : Outcome.Meet Q E outcome outcome' := by
  obtain ⟨s, hs, rfl⟩ := left
  obtain ⟨t, ht, rfl⟩ := right
  exact (h s t ⟨hs, ht⟩).1

theorem ok {a : α} {a' : α'} (left : Yields I f (.ok a)) (right : Yields I g (.ok a')) : Q a a' := by
  cases h.meet left right with
  | ok related => exact related

theorem not_ok_error {a : α} {e : Error} (left : Yields I f (.ok a)) :
    ¬ Yields I g (.error e) := fun right => by
  cases h.meet left right

theorem not_error_ok {a' : α'} {e : Error} (left : Yields I f (.error e)) :
    ¬ Yields I g (.ok a') := fun right => by
  cases h.meet left right

/-- What succeeds succeeds beside a result of the other. -/
theorem ok_left {a : α} (left : Yields I f (.ok a)) : ∃ a', Yields I g (.ok a') ∧ Q a a' := by
  obtain ⟨s, hs, result⟩ := left
  have there : Yields I g (g s).1 := .outcome hs g
  generalize (g s).1 = outcome at there
  cases h.meet ⟨s, hs, result⟩ there with
  | ok related => exact ⟨_, there, related⟩

/-- What fails fails beside a failure of the other. -/
theorem error_left {e : Error} (left : Yields I f (.error e)) :
    ∃ e', Yields I g (.error e') ∧ E e e' := by
  obtain ⟨s, hs, failed⟩ := left
  have there : Yields I g (g s).1 := .outcome hs g
  generalize (g s).1 = outcome at there
  cases h.meet ⟨s, hs, failed⟩ there with
  | error related => exact ⟨_, there, related⟩

theorem error_right {e : Error} (right : Yields I g (.error e)) :
    ∃ e', Yields I f (.error e') ∧ E e' e := by
  obtain ⟨s, hs, failed⟩ := right
  have there : Yields I f (f s).1 := .outcome hs f
  generalize (f s).1 = outcome at there
  cases h.meet there ⟨s, hs, failed⟩ with
  | error related => exact ⟨_, there, related⟩

/-- Related results are related further by what makes them come about. -/
theorem sharpen {P : α → α' → Prop}
    (results : ∀ a a', Yields I f (.ok a) → Yields I g (.ok a') → Q a a' → P a a') :
    Matched I P E f g := fun s t hs => by
  obtain ⟨meet, after⟩ := h s t hs
  refine ⟨meet.sharpen fun a a' result result' => ?_, after⟩
  have left : Yields I f (.ok a) := ⟨s, hs.1, result⟩
  have right : Yields I g (.ok a') := ⟨t, hs.2, result'⟩
  exact results a a' left right (h.ok left right)

/-- What a computation gives from two states, both beside one outcome of another. -/
theorem twice {P : α' → α' → Prop} {E' : Error → Error → Prop} (keeps : Keeps I g)
    (results : ∀ a a', Yields I g (.ok a) → Yields I g (.ok a') → P a a')
    (errors : ∀ e e' e'', E e e' → E e e'' → E' e' e'') : Matched I P E' g g := by
  refine .of_yields keeps keeps fun outcome outcome' left right => ?_
  obtain ⟨s, hs, _⟩ := id left
  have beside : Yields I f (f s).1 := .outcome hs f
  have first := h.meet beside left
  have second := h.meet beside right
  generalize (f s).1 = middle at first second
  cases first with
  | ok _ =>
    cases second with
    | ok _ => exact .ok (results _ _ left right)
  | error one =>
    cases second with
    | error other => exact .error (errors _ _ _ one other)

end Matched
end Action
end Annotations
