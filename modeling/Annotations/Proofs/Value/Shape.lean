import Annotations.Value

/-!
What conforms to a declared array type does so item by item, and what stands inside a value nests less
deeply than the value.
-/
namespace Annotations
namespace Value

variable {value : Value} {items : List Value} {element : AttrType}

theorem itemsConformTo_iff :
    itemsConformTo items element = true ↔ ∀ item ∈ items, item.conformsTo element = true := by
  induction items with
  | nil => simp [itemsConformTo]
  | cons item rest ih => rw [itemsConformTo, Bool.and_eq_true, ih, List.forall_mem_cons]

theorem depth_le_itemsDepth (mem : value ∈ items) : value.depth ≤ itemsDepth items := by
  induction items with
  | nil => cases mem
  | cons item rest ih =>
    rw [itemsDepth]
    rcases List.mem_cons.1 mem with rfl | mem
    · exact Nat.le_max_left _ _
    · exact Nat.le_trans (ih mem) (Nat.le_max_right _ _)

theorem depth_le_entriesDepth {entries : Entries Value} {name : String}
    (h : entries.get? name = some value) : value.depth ≤ entriesDepth entries := by
  induction entries with
  | nil => cases h
  | cons entry rest ih =>
    obtain ⟨key, head⟩ := entry
    rw [entriesDepth]
    rw [Entries.get?_cons] at h
    split at h
    · cases h
      exact Nat.le_max_left _ _
    · exact Nat.le_trans (ih h) (Nat.le_max_right _ _)

end Value
end Annotations
