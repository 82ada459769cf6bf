import Annotations.Value

/-!
What stands in a value at any depth, in arrays, annotations and stores, and values in which no store
stands.
-/
namespace Annotations
namespace Value

/-- A value is part of itself, and the parts of an array's items and of the values of annotations and
stores are parts as well. -/
inductive Part : Value → Value → Prop
  | here {value : Value} : Part value value
  | item {items : List Value} {item inner : Value} : item ∈ items → Part item inner →
    Part (.array items) inner
  | annot {type name : String} {values : Entries Value} {value inner : Value} :
    values.get? name = some value → Part value inner → Part (.annot type values) inner
  | store {type shown : Option String} {name : String} {values : Entries Value}
    {value inner : Value} :
    values.get? name = some value → Part value inner → Part (.store type shown values) inner

/-- No store is part of a value. -/
def StoreFree (value : Value) : Prop :=
  ∀ type shown values, ¬ value.Part (.store type shown values)

namespace StoreFree

variable {value : Value} {items : List Value} {type name : String} {values : Entries Value}

theorem item (h : (Value.array items).StoreFree) (mem : value ∈ items) : value.StoreFree :=
  fun type shown values part => h type shown values (.item mem part)

theorem entry (h : (Value.annot type values).StoreFree) (own : values.get? name = some value) :
    value.StoreFree :=
  fun type shown values part => h type shown values (.annot own part)

theorem array (h : ∀ item ∈ items, item.StoreFree) : (Value.array items).StoreFree := by
  intro type shown values part
  cases part with
  | item mem part => exact h _ mem type shown values part

theorem annot (h : ∀ name value, values.get? name = some value → value.StoreFree) :
    (Value.annot type values).StoreFree := by
  intro type shown values part
  cases part with
  | annot own part => exact h _ _ own type shown values part

/-- No store is part of what is neither an array nor an annotation nor a store. -/
theorem plain (single : ∀ items, value ≠ .array items)
    (noAnnot : ∀ type values, value ≠ .annot type values)
    (noStore : ∀ given shown values, value ≠ .store given shown values) : value.StoreFree := by
  intro type shown values part
  cases part with
  | here => exact noStore _ _ _ rfl
  | item _ _ => exact single _ rfl
  | annot _ _ => exact noAnnot _ _ rfl
  | store _ _ => exact noStore _ _ _ rfl

end StoreFree

mutual

/-- Whether no store is part of a value, with all entries of annotations looked at. -/
def isStoreFree : Value → Bool
  | .store _ _ _ => false
  | .annot _ values => entriesStoreFree values
  | .array items => itemsStoreFree items
  | _ => true

def itemsStoreFree : List Value → Bool
  | [] => true
  | item :: rest => isStoreFree item && itemsStoreFree rest

def entriesStoreFree : List (String × Value) → Bool
  | [] => true
  | (_, value) :: rest => isStoreFree value && entriesStoreFree rest

end

theorem isStoreFree_of_item {items : List Value} {item : Value} (h : itemsStoreFree items = true)
    (mem : item ∈ items) : item.isStoreFree = true := by
  induction items with
  | nil => cases mem
  | cons first rest ih =>
    obtain ⟨here, later⟩ := Bool.and_eq_true_iff.1 h
    rcases List.mem_cons.1 mem with rfl | mem
    · exact here
    · exact ih later mem

theorem isStoreFree_of_entry {values : Entries Value} {name : String} {value : Value}
    (h : entriesStoreFree values = true) (own : values.get? name = some value) :
    value.isStoreFree = true := by
  induction values with
  | nil => cases own
  | cons entry rest ih =>
    obtain ⟨here, later⟩ := Bool.and_eq_true_iff.1 h
    rw [Entries.get?_cons] at own
    split at own
    · cases own
      exact here
    · exact ih later own

theorem StoreFree.of_isStoreFree {value : Value} (h : value.isStoreFree = true) :
    value.StoreFree := by
  intro type shown values part
  generalize target : Value.store type shown values = inner at part
  induction part with
  | here =>
    subst target
    cases h
  | item mem _ ih =>
    rw [isStoreFree] at h
    exact ih (isStoreFree_of_item h mem) target
  | annot own _ ih =>
    rw [isStoreFree] at h
    exact ih (isStoreFree_of_entry h own) target
  | store _ _ _ => cases h

end Value
end Annotations
