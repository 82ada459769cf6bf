import Annotations.Proofs.Action.Matched
import Annotations.Proofs.Merge.Formed

/-!
A computation shows another one: both fail, with related errors, or the first gives what a rendering
shows of what the second gives. If nested annotations are shown of complete ones, so
are formed values, of values rendered as they are and of values fitted to a declared type.
-/
namespace Annotations

open Annotations.Action SynthMemo Registry
open Value (same_refl same_symm same_trans same_array_iff same_annot_iff inside_induction)

variable {reg : Registry} {rendering : Rendering} {value value' : Value} {declared : AttrType}

/-- Two errors that both end a search. -/
def Error.BothEnd (e e' : Error) : Prop := e.isConfiguration = true ∧ e'.isConfiguration = true

namespace Rendering

/-- The first computation gives what a rendering shows of what the second gives, or both fail, with
related errors. -/
abbrev ShowsUpTo (reg : Registry) (rendering : Rendering) (E : Error → Error → Prop)
    (f g : Action SynthMemo Value) : Prop :=
  Matched (Sound reg) (fun shown value => shown.same (rendering.dress value) = true) E f g

/-- The first computation gives what a rendering shows of what the second gives, or both fail, with
errors that end a search. -/
abbrev Shows (reg : Registry) (rendering : Rendering) (f g : Action SynthMemo Value) : Prop :=
  rendering.ShowsUpTo reg Error.BothEnd f g

variable {E : Error → Error → Prop} {nested : Annot → Action SynthMemo Value}
  {make : Source → String → Action SynthMemo Annot}

theorem renderItems_eq (items : List Value) :
    rendering.renderItems nested items = items.mapM (rendering.renderWith nested) := by
  induction items with
  | nil => rfl
  | cons item rest ih =>
    rw [renderItems, ih, List.mapM_cons]

/-- Where computations show others item by item, so does their array. -/
theorem showsUpTo_array {f g : Value → Action SynthMemo Value} {P : Value → Value → Prop}
    {items items' : List Value}
    (each : ∀ item item', P item item' → rendering.ShowsUpTo reg E (f item) (g item'))
    (h : List.Forall₂ P items items') :
    rendering.ShowsUpTo reg E (do return .array (← items.mapM f))
      (do return .array (← items'.mapM g)) := by
  refine (Paired.mapM each h).bind fun shown whole all => .pure ?_
  rw [dress_array]
  exact same_array_iff.2 (List.forall₂_map_right_iff.2 all)

/-- What becomes of nested annotations shows what is made of equal ones. -/
def NestShows (reg : Registry) (rendering : Rendering) (nested : Annot → Action SynthMemo Value)
    (make : Source → String → Action SynthMemo Annot) : Prop :=
  ∀ annot annot' : Annot, annot.toValue.Formed reg → annot.toValue.same annot'.toValue = true →
    rendering.Shows reg (nested annot) (Annot.toValue <$> make (.annot annot') annot'.type)

/-- A formed value that conforms to a declared type is rendered to show what an equal value is fitted
to. -/
theorem NestShows.fit (shows : NestShows reg rendering nested make) {owner name : String}
    (formed : value.Formed reg) (conforms : value.conformsTo declared = true)
    (same : value.same value' = true) :
    rendering.Shows reg (rendering.renderWith nested value)
      (View.fit owner make name declared value') := by
  induction declared generalizing value value' with
  | array element ih =>
    cases value with
    | array items =>
      cases value' with
      | array items' =>
        unfold renderWith View.fit
        rw [renderItems_eq]
        refine showsUpTo_array (P := fun item item' => item ∈ items ∧ item.same item' = true) ?_
          ((List.forall₂_and_left _ _).2 ⟨fun _ => id, same_array_iff.1 same⟩)
        rintro item item' ⟨mem, alike⟩
        exact ih (formed.item mem) (Value.itemsConformTo_iff.1 conforms item mem) alike
      | _ => cases same
    | _ => cases conforms
  | annot type =>
    cases value with
    | annot given values =>
      cases value' with
      | annot given' values' =>
        obtain rfl : given = type := by simpa [Value.conformsTo] using conforms
        obtain rfl : given = given' := (same_annot_iff.1 same).1
        simp only [View.fit, if_true]
        rw [← map_eq_pure_bind]
        exact shows ⟨given, values⟩ ⟨given, values'⟩ formed same
      | _ => cases same
    | store given shown values => exact absurd .here formed.flat
    | _ => cases conforms
  | classRef =>
    obtain rfl := Value.eq_of_same (by simp) (by simp) conforms same
    rw [View.fit_plain (by simp) (by simp) conforms]
    cases value with
    | classRef name => exact .pure (same_refl _)
    | _ => cases conforms
  | _ =>
    obtain rfl := Value.eq_of_same (by simp) (by simp) conforms same
    rw [View.fit_plain (by simp) (by simp) conforms]
    cases value with
    | _ => first | (cases conforms; done) | exact .pure (same_refl _)

/-- A value is rendered to show what becomes of it where it is rendered as it is, if the annotations
that it nests are. -/
theorem renderWith_shows {plain : Annot → Action SynthMemo Value} {P : Value → Prop}
    (item : ∀ items : List Value, P (.array items) → ∀ item ∈ items, P item)
    (shows : ∀ annot : Annot, P annot.toValue →
      rendering.ShowsUpTo reg E (nested annot) (plain annot)) (given : P value) :
    rendering.ShowsUpTo reg E (rendering.renderWith nested value)
      (Rendering.raw.renderWith plain value) := by
  induction value using inside_induction with
  | annot type values _ => exact shows ⟨type, values⟩ given
  | array items ih =>
    unfold renderWith
    rw [renderItems_eq, renderItems_eq]
    refine showsUpTo_array (P := fun item item' => item ∈ items ∧ item = item') ?_
      (List.forall₂_same.2 fun _ mem => ⟨mem, rfl⟩)
    rintro inner _ ⟨mem, rfl⟩
    exact ih inner mem (item items given inner mem)
  | _ => exact .pure (same_refl _)

end Rendering
end Annotations
