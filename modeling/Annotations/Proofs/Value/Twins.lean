import Annotations.Proofs.Value.Same
import Annotations.Proofs.Value.Shape

/-!
Values that are equal and whose stores belong to the same types besides: only the order of entries and
the names shown for stores may differ. Such values conform to the same types and nest equally deep.
-/
namespace Annotations
namespace Value

/-- Equal values, with equal types in all stores in them. -/
inductive Twins : Value → Value → Prop
  | refl {value : Value} : Twins value value
  | array {items items' : List Value} : List.Forall₂ Twins items items' →
    Twins (.array items) (.array items')
  | annot {type : String} {values values' : Entries Value} :
    (Entries.names values).Nodup → (Entries.names values').Nodup →
    (∀ name, Option.Rel Twins (Entries.get? values name) (Entries.get? values' name)) →
    Twins (.annot type values) (.annot type values')
  | store {type shown shown' : Option String} {values values' : Entries Value} :
    (Entries.names values).Nodup → (Entries.names values').Nodup →
    (∀ name, Option.Rel Twins (Entries.get? values name) (Entries.get? values' name)) →
    Twins (.store type shown values) (.store type shown' values')

variable {value value' : Value} {items items' : List Value} {values values' : Entries Value}

theorem twins_refl_option (value? : Option Value) : Option.Rel Twins value? value? := by
  cases value? with
  | none => exact .none
  | some value => exact .some .refl

namespace Twins

theorem kind (h : value.Twins value') : value.kind = value'.kind := by
  cases h <;> rfl

/-- Twins stand for annotations of the same types. -/
theorem conformsTo (h : value.Twins value') (declared : AttrType) :
    value.conformsTo declared = value'.conformsTo declared := by
  induction declared generalizing value value' with
  | array element ih =>
    cases h with
    | refl => rfl
    | array all =>
      change itemsConformTo _ element = itemsConformTo _ element
      induction all with
      | nil => rfl
      | cons here _ later => rw [itemsConformTo, itemsConformTo, ih here, later]
    | annot _ _ _ => rfl
    | store _ _ _ => rfl
  | _ => cases h <;> rfl

end Twins

/-- What holds of the values inside holds of them under each name. -/
theorem rel_inside {R S : Value → Value → Prop}
    (step : ∀ name value, values.get? name = some value → ∀ {value'}, R value value' → S value value')
    (all : ∀ name, Option.Rel R (values.get? name) (values'.get? name)) (name : String) :
    Option.Rel S (values.get? name) (values'.get? name) := by
  have here := step name
  have related := all name
  generalize values.get? name = left at here related ⊢
  generalize values'.get? name = right at related ⊢
  cases related with
  | none => exact .none
  | some related => exact .some (here _ rfl related)

theorem Twins.same (h : value.Twins value') : value.same value' = true := by
  induction value using inside_induction generalizing value' with
  | annot type values ih =>
    cases h with
    | refl => exact same_refl _
    | annot _ _ all =>
      exact same_annot_iff.2 ⟨rfl, fun name => sameOption_iff.2 (rel_inside ih all name)⟩
  | store type shown values ih =>
    cases h with
    | refl => exact same_refl _
    | store _ _ all => exact same_store_iff.2 fun name => sameOption_iff.2 (rel_inside ih all name)
  | array items ih =>
    cases h with
    | refl => exact same_refl _
    | array all =>
      refine same_array_iff.2 ?_
      induction all with
      | nil => exact .nil
      | cons here _ later =>
        exact .cons (ih _ (.head _) here) (later fun item mem => ih item (.tail _ mem))
  | _ =>
    cases h
    exact same_refl _

theorem entriesDepth_le (distinct : values.names.Nodup)
    (all : ∀ name value, values.get? name = some value →
      ∃ value', values'.get? name = some value' ∧ value.depth = value'.depth) :
    entriesDepth values ≤ entriesDepth values' := by
  have each : ∀ entry ∈ values, entry.2.depth ≤ entriesDepth values' := fun entry mem => by
    obtain ⟨value', there, equal⟩ := all entry.1 entry.2 (Entries.get?_of_mem distinct mem)
    exact equal ▸ depth_le_entriesDepth there
  clear distinct all
  induction values with
  | nil => exact Nat.zero_le _
  | cons entry rest ih =>
    obtain ⟨name, value⟩ := entry
    rw [entriesDepth]
    exact Nat.max_le.2 ⟨each _ (.head rest), ih fun other mem => each other (.tail _ mem)⟩

/-- Entries with distinct names nest as deeply as others do with values that do so under each name. -/
theorem entriesDepth_eq (distinct : values.names.Nodup) (distinct' : values'.names.Nodup)
    (all : ∀ name, Option.Rel (fun value value' => value.depth = value'.depth) (values.get? name)
      (values'.get? name)) : entriesDepth values = entriesDepth values' := by
  refine Nat.le_antisymm (entriesDepth_le distinct fun name value there => ?_)
    (entriesDepth_le distinct' fun name value' there => ?_)
  · have related := all name
    rw [there] at related
    generalize values'.get? name = right at related ⊢
    cases related with
    | some equal => exact ⟨_, rfl, equal⟩
  · have related := all name
    rw [there] at related
    generalize values.get? name = left at related ⊢
    cases related with
    | some equal => exact ⟨_, rfl, equal.symm⟩

theorem Twins.depth (h : value.Twins value') : value.depth = value'.depth := by
  induction value using inside_induction generalizing value' with
  | annot type values ih =>
    cases h with
    | refl => rfl
    | annot distinct distinct' all =>
      exact congrArg (· + 1) (entriesDepth_eq distinct distinct' (rel_inside ih all))
  | store type shown values ih =>
    cases h with
    | refl => rfl
    | store distinct distinct' all =>
      exact congrArg (· + 1) (entriesDepth_eq distinct distinct' (rel_inside ih all))
  | array items ih =>
    cases h with
    | refl => rfl
    | array all =>
      change itemsDepth _ = itemsDepth _
      induction all with
      | nil => rfl
      | cons here _ later =>
        rw [itemsDepth, itemsDepth, ih _ (.head _) here,
          later fun item mem => ih item (.tail _ mem)]
  | _ =>
    cases h
    rfl

end Value
end Annotations
