import Annotations.Proofs.Merge.Layout

/-!
Stores collected one under the other. A store adds one value to the column of each of its names, so
stores of the same names in the same order become the rows of a table that has no gaps.
-/
namespace Annotations

theorem Store.get?_of_mem_names {store : Store} {name : String} (mem : name ∈ store.names) :
    ∃ value, store.get? name = some value :=
  Option.ne_none_iff_exists'.1 (mt Entries.get?_eq_none_iff.1 (not_not.2 mem))

namespace MultiStore

variable {multi : MultiStore} {store : Store} {name : String}

theorem get?_add (multi : MultiStore) (name other : String) (value : Value) :
    (multi.add name value).get? other =
      if name = other then some ((multi.get? other).getD [] ++ [value]) else multi.get? other := by
  rw [add, get?, Entries.get?_put]
  split
  · rename_i same
    rw [same]
  · rfl

/-- A store adds its value to the column of each of its names and nothing to any other. -/
theorem get?_addAll (distinct : store.names.Nodup) (name : String) :
    (multi.addAll store).get? name =
      ((store.get? name).map fun value => (multi.get? name).getD [] ++ [value]).or
        (multi.get? name) := by
  rw [addAll, Store.get?]
  rw [Store.names] at distinct
  generalize store.values = entries at distinct
  induction entries generalizing multi with
  | nil => rfl
  | cons entry rest ih =>
    obtain ⟨key, value⟩ := entry
    obtain ⟨fresh, distinct⟩ := List.nodup_cons.1 distinct
    rw [List.foldl_cons, ih distinct, get?_add, Entries.get?_cons]
    split
    · rename_i same
      rw [← same, Entries.get?_eq_none_iff.2 fresh]
      rfl
    · rfl

theorem names_addAll_of_there (there : ∀ name ∈ store.names, name ∈ multi.names) :
    (multi.addAll store).names = multi.names := by
  rw [addAll]
  rw [Store.names] at there
  generalize store.values = entries at there
  induction entries generalizing multi with
  | nil => rfl
  | cons entry rest ih =>
    have same : (multi.add entry.1 entry.2).names = multi.names :=
      Entries.names_put_of_mem (there entry.1 (.head _)) _
    exact (ih fun name mem => same ▸ there name (.tail _ mem)).trans same

theorem names_addAll_of_fresh (distinct : (multi.names ++ store.names).Nodup) :
    (multi.addAll store).names = multi.names ++ store.names := by
  rw [addAll]
  rw [Store.names] at distinct ⊢
  generalize store.values = entries at distinct ⊢
  induction entries generalizing multi with
  | nil => exact (List.append_nil _).symm
  | cons entry rest ih =>
    have fresh : entry.1 ∉ multi.names := fun mem =>
      (List.nodup_append.1 distinct).2.2 _ mem _ (.head _) rfl
    have put : (multi.add entry.1 entry.2).names = multi.names ++ [entry.1] :=
      Entries.names_put_of_fresh fresh _
    rw [Entries.names_cons, List.append_cons, ← put] at distinct ⊢
    exact ih distinct

/-- The columns hold the given stores as rows: they stand under the given names in this order, and the
column of each lists what the stores have under it. -/
structure Aligned (heads : List String) (rows : List Store) (multi : MultiStore) : Prop where
  names : multi.names = heads
  column : ∀ name ∈ heads, ∃ column, multi.get? name = some column ∧
    column.map some = rows.map (·.get? name)

theorem Aligned.first (distinct : store.names.Nodup) :
    ((default : MultiStore).addAll store).Aligned store.names [store] where
  names := names_addAll_of_fresh distinct
  column name mem := by
    obtain ⟨value, found⟩ := Store.get?_of_mem_names mem
    refine ⟨[value], ?_, by simp [found]⟩
    rw [get?_addAll distinct, found]
    rfl

/-- A store of the same names is one more row. -/
theorem Aligned.addAll {rows : List Store} (h : multi.Aligned store.names rows)
    (distinct : store.names.Nodup) : (multi.addAll store).Aligned store.names (rows ++ [store]) where
  names := (names_addAll_of_there fun _ mem => h.names ▸ mem).trans h.names
  column name mem := by
    obtain ⟨value, found⟩ := Store.get?_of_mem_names mem
    obtain ⟨column, there, lists⟩ := h.column name mem
    refine ⟨column ++ [value], ?_, by simp [lists, found]⟩
    rw [get?_addAll distinct, found, there]
    rfl

end MultiStore
end Annotations
