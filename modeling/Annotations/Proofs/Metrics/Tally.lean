import Annotations.Metrics
import Mathlib.Data.List.Basic

/-!
What the counters show: an event is counted under labels of its own, so the count under its labels
is how often it happened.
-/
namespace Annotations

theorem CacheName.label_injective : Function.Injective CacheName.label := by
  intro cache cache' same
  cases cache <;> cases cache' <;> first | rfl | exact absurd same (by decide)

namespace Metrics

theorem sample_injective : Function.Injective sample := by
  intro event event' same
  cases event with
  | lookup cache hit =>
    cases event' with
    | lookup cache' hit' =>
      simp only [sample, Prod.mk.injEq, List.cons.injEq, and_true, true_and] at same
      obtain ⟨caches, outcomes⟩ := same
      rw [CacheName.label_injective caches]
      cases hit <;> cases hit' <;> first | rfl | exact absurd outcomes (by decide)
    | failure elementKind => simp [sample] at same
  | failure elementKind =>
    cases event' with
    | lookup cache hit => simp [sample] at same
    | failure elementKind' =>
      simp only [sample, Prod.mk.injEq, List.cons.injEq, and_true, true_and] at same
      rw [same]

/-- The count that is shown for events like one, zero where its labels do not occur. -/
def shown (event : Event) (events : List Event) : Nat :=
  ((tally (sample event).1 events).lookup (sample event).2).getD 0

theorem lookup_map_self {α β : Type} [BEq α] [LawfulBEq α] [DecidableEq α] (f : α → β)
    (items : List α) (item : α) :
    (items.map fun other => (other, f other)).lookup item =
      if item ∈ items then some (f item) else none := by
  induction items with
  | nil => rfl
  | cons first rest ih =>
    by_cases same : item = first
    · simp [same]
    · simp [List.lookup_cons, same, ih, beq_eq_false_iff_ne.2 same]

theorem shown_eq_count (event : Event) (events : List Event) :
    shown event events = events.count event := by
  let labels := events.filterMap fun other =>
    if (sample other).1 = (sample event).1 then some (sample other).2 else none
  have counted : labels.countP (· == (sample event).2) = events.count event := by
    rw [List.countP_filterMap, List.count]
    refine List.countP_congr fun other _ => ?_
    have whole : (sample other).1 = (sample event).1 ∧ (sample other).2 = (sample event).2 ↔
        other = event := by
      rw [← Prod.ext_iff]
      exact sample_injective.eq_iff
    by_cases counter : (sample other).1 = (sample event).1
    · simp only [counter, if_true, Option.map_some, Option.getD_some, beq_iff_eq]
      rw [← whole]
      simp [counter]
    · simp only [counter, if_false, Option.map_none, Option.getD_none, beq_iff_eq]
      rw [← whole]
      simp [counter]
  change ((labels.eraseDups.map fun found => (found, labels.countP (· == found))).lookup
    (sample event).2).getD 0 = _
  simp only [lookup_map_self, List.mem_eraseDups]
  split
  · exact counted
  · rename_i absent
    rw [← counted]
    refine (List.countP_eq_zero.2 fun other mem same => absent ?_).symm
    rw [← eq_of_beq same]
    exact mem

end Metrics
end Annotations
