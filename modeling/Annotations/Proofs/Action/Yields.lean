import Annotations.Proofs.Action.Closed
import Mathlib.Data.List.Forall2

/-!
The outcomes that a computation can have from the states that meet an invariant, taken apart along
its steps.
-/
namespace Annotations
namespace Action

variable {σ α β : Type} {I : σ → Prop}

/-- Some state that meets an invariant leads to an outcome. -/
def Yields (I : σ → Prop) (f : Action σ α) (outcome : Except Error α) : Prop :=
  ∃ s, I s ∧ (f s).1 = outcome

namespace Yields

theorem pure {a : α} {outcome : Except Error α} (h : Yields I (Pure.pure a) outcome) :
    outcome = .ok a := by
  obtain ⟨_, _, rfl⟩ := h
  rfl

theorem throw {e : Error} {outcome : Except Error α} (h : Yields I (throw e) outcome) :
    outcome = .error e := by
  obtain ⟨_, _, rfl⟩ := h
  rfl

theorem lift {outcome outcome' : Except Error α} (h : Yields I (liftM outcome) outcome') :
    outcome' = outcome := by
  obtain ⟨s, _, rfl⟩ := h
  rw [lift_apply]

theorem computes {f : Action σ α} {outcome outcome' : Except Error α} (h : Yields I f outcome')
    (computes : Computes I f outcome) : outcome' = outcome := by
  obtain ⟨s, hs, rfl⟩ := h
  exact (computes s hs).1

theorem bind_ok {f : Action σ α} {k : α → Action σ β} {b : β} (keeps : Keeps I f)
    (h : Yields I (f >>= k) (.ok b)) : ∃ a, Yields I f (.ok a) ∧ Yields I (k a) (.ok b) := by
  obtain ⟨s, hs, same⟩ := h
  rw [bind_apply] at same
  cases first : (f s).1 with
  | ok a =>
    rw [first] at same
    exact ⟨a, ⟨s, hs, first⟩, (f s).2, keeps s hs, same⟩
  | error e =>
    rw [first] at same
    cases same

theorem bind_error {f : Action σ α} {k : α → Action σ β} {e : Error} (keeps : Keeps I f)
    (h : Yields I (f >>= k) (.error e)) :
    Yields I f (.error e) ∨ ∃ a, Yields I f (.ok a) ∧ Yields I (k a) (.error e) := by
  obtain ⟨s, hs, same⟩ := h
  rw [bind_apply] at same
  cases first : (f s).1 with
  | ok a =>
    rw [first] at same
    exact .inr ⟨a, ⟨s, hs, first⟩, (f s).2, keeps s hs, same⟩
  | error e' =>
    rw [first] at same
    cases same
    exact .inl ⟨s, hs, first⟩

theorem map_ok {f : Action σ α} {m : α → β} {b : β} (h : Yields I (m <$> f) (.ok b)) :
    ∃ a, Yields I f (.ok a) ∧ m a = b := by
  obtain ⟨s, hs, same⟩ := h
  rw [map_apply] at same
  cases first : (f s).1 with
  | ok a =>
    rw [first] at same
    cases same
    exact ⟨a, ⟨s, hs, first⟩, rfl⟩
  | error e =>
    rw [first] at same
    cases same

theorem map_error {f : Action σ α} {m : α → β} {e : Error} (h : Yields I (m <$> f) (.error e)) :
    Yields I f (.error e) := by
  obtain ⟨s, hs, same⟩ := h
  rw [map_apply] at same
  cases first : (f s).1 with
  | ok a =>
    rw [first] at same
    cases same
  | error e' =>
    rw [first] at same
    cases same
    exact ⟨s, hs, first⟩

theorem mapM_ok {f : α → Action σ β} {items : List α} {results : List β}
    (keeps : ∀ item, Keeps I (f item)) (h : Yields I (items.mapM f) (.ok results)) :
    List.Forall₂ (fun item result => Yields I (f item) (.ok result)) items results := by
  induction items generalizing results with
  | nil =>
    rw [List.mapM_nil] at h
    cases h.pure
    exact .nil
  | cons item rest ih =>
    rw [List.mapM_cons] at h
    obtain ⟨head, first, h⟩ := h.bind_ok (keeps item)
    obtain ⟨tail, later, h⟩ := h.bind_ok ((Keeps.closed I).mapM keeps rest)
    cases h.pure
    exact .cons first (ih later)

theorem mapM_error {f : α → Action σ β} {items : List α} {e : Error}
    (keeps : ∀ item, Keeps I (f item)) (h : Yields I (items.mapM f) (.error e)) :
    ∃ item ∈ items, Yields I (f item) (.error e) := by
  induction items with
  | nil =>
    rw [List.mapM_nil] at h
    cases h.pure
  | cons item rest ih =>
    rw [List.mapM_cons] at h
    rcases h.bind_error (keeps item) with first | ⟨_, _, h⟩
    · exact ⟨item, .head rest, first⟩
    · rcases h.bind_error ((Keeps.closed I).mapM keeps rest) with later | ⟨_, _, h⟩
      · obtain ⟨other, mem, failed⟩ := ih later
        exact ⟨other, .tail item mem, failed⟩
      · cases h.pure

/-- Runs over related items, each run with related results, have related results. -/
theorem lockstep {α' β' : Type} {R : α → α' → Prop} {S : β → β' → Prop} {Y : α → β → Prop}
    {Y' : α' → β' → Prop} {items : List α} {items' : List α'} {results : List β}
    {results' : List β'}
    (step : ∀ a ∈ items, ∀ a' b b', R a a' → Y a b → Y' a' b' → S b b')
    (h : List.Forall₂ R items items') (made : List.Forall₂ Y items results)
    (made' : List.Forall₂ Y' items' results') : List.Forall₂ S results results' := by
  induction h generalizing results results' with
  | nil =>
    cases made
    cases made'
    exact .nil
  | cons here _ later =>
    cases made with
    | cons first rest =>
      cases made' with
      | cons first' rest' =>
        exact .cons (step _ (.head _) _ _ _ here first first')
          (later (fun a mem => step a (.tail _ mem)) rest rest')

end Yields
end Action
end Annotations
