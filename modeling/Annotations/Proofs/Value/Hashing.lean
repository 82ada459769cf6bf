import Annotations.Proofs.Value.Twins
import Annotations.Store
import Annotations.Value.Digest
import Mathlib.Data.List.Perm.Basic
import Mathlib.Data.String.Basic

/-!
Equality does not see the order in which entries were put in, and equal values have equal hashed
content: entries in name order are settled by what is found under each name.
-/
namespace Annotations

namespace Entries

variable {α : Type}

theorem get?_putSorted (entries : Entries α) (name other : String) (value : α) :
    (entries.putSorted name value).get? other =
      if name = other then some value else entries.get? other := by
  induction entries with
  | nil => rfl
  | cons entry rest ih =>
    obtain ⟨key, old⟩ := entry
    unfold putSorted
    by_cases same : key = name
    · subst same
      rw [if_pos rfl, get?_cons, get?_cons]
      split <;> rfl
    · rw [if_neg same]
      split
      · rfl
      · by_cases here : key = other
        · subst here
          simp [Ne.symm same]
        · simp [here, ih]

theorem get?_sorted (entries : Entries α) (name : String) :
    entries.sorted.get? name = entries.get? name := by
  induction entries with
  | nil => rfl
  | cons entry rest ih =>
    obtain ⟨key, value⟩ := entry
    rw [sorted, get?_putSorted, get?_cons, ih]

/-- Entries in name order, no name twice. -/
def Ordered (entries : Entries α) : Prop := entries.names.Pairwise (· < ·)

theorem mem_names_putSorted {entries : Entries α} {name other : String} {value : α} :
    other ∈ (entries.putSorted name value).names ↔ other = name ∨ other ∈ entries.names := by
  have found (entries : Entries α) (name : String) : name ∈ entries.names ↔ entries.get? name ≠ none := by
    rw [ne_eq, get?_eq_none_iff, not_not]
  rw [found, found, get?_putSorted]
  by_cases same : name = other
  · simp [same]
  · simp [same, Ne.symm same]

theorem ordered_putSorted {entries : Entries α} (h : entries.Ordered) (name : String) (value : α) :
    (entries.putSorted name value).Ordered := by
  induction entries with
  | nil => exact List.pairwise_singleton _ name
  | cons entry rest ih =>
    obtain ⟨key, old⟩ := entry
    obtain ⟨below, tail⟩ := List.pairwise_cons.1 h
    unfold putSorted
    split
    · exact h
    · rename_i apart
      split
      · rename_i less
        refine List.pairwise_cons.2 ⟨fun other mem => ?_, h⟩
        rcases List.mem_cons.1 mem with rfl | mem
        · exact less
        · exact lt_trans less (below other mem)
      · rename_i notLess
        have greater : key < name := lt_of_le_of_ne (not_lt.1 notLess) apart
        refine List.pairwise_cons.2 ⟨fun other mem => ?_, ih tail⟩
        rcases mem_names_putSorted.1 mem with rfl | mem
        · exact greater
        · exact below other mem

theorem ordered_sorted (entries : Entries α) : entries.sorted.Ordered := by
  induction entries with
  | nil => exact .nil
  | cons entry rest ih => exact ordered_putSorted ih entry.1 entry.2

/-- Ordered entries are what is found under each name. -/
theorem Ordered.ext {entries entries' : Entries α} (h : entries.Ordered) (h' : entries'.Ordered)
    (same : ∀ name, entries.get? name = entries'.get? name) : entries = entries' := by
  induction entries generalizing entries' with
  | nil =>
    cases entries' with
    | nil => rfl
    | cons entry' rest' =>
      obtain ⟨key', value'⟩ := entry'
      have found := same key'
      simp at found
  | cons entry rest ih =>
    obtain ⟨key, value⟩ := entry
    cases entries' with
    | nil =>
      have found := same key
      simp at found
    | cons entry' rest' =>
      obtain ⟨key', value'⟩ := entry'
      obtain ⟨below, tail⟩ := List.pairwise_cons.1 h
      obtain ⟨below', tail'⟩ := List.pairwise_cons.1 h'
      have keys : key = key' := by
        by_contra apart
        have found := same key'
        have found' := same key
        rw [get?_cons, get?_cons, if_neg apart, if_pos rfl] at found
        rw [get?_cons, get?_cons, if_neg (Ne.symm apart), if_pos rfl] at found'
        have less := below key' (List.mem_map.2 ⟨_, mem_of_get? found, rfl⟩)
        have less' := below' key (List.mem_map.2 ⟨_, mem_of_get? found'.symm, rfl⟩)
        exact lt_asymm less less'
      subst keys
      have values : value = value' := by simpa using same key
      subst values
      have rests : ∀ name, get? rest name = get? rest' name := by
        intro name
        by_cases here : key = name
        · subst here
          rw [get?_eq_none_iff.2 fun mem => lt_irrefl _ (below key mem),
            get?_eq_none_iff.2 fun mem => lt_irrefl _ (below' key mem)]
        · simpa [here] using same name
      rw [ih tail tail' rests]

theorem sorted_congr {entries entries' : Entries α}
    (same : ∀ name, entries.get? name = entries'.get? name) : entries.sorted = entries'.sorted :=
  (ordered_sorted entries).ext (ordered_sorted entries') fun name => by
    rw [get?_sorted, get?_sorted, same]

/-- With distinct names nothing is found elsewhere for another order of the entries. -/
theorem get?_perm {entries entries' : Entries α} (distinct : entries.names.Nodup)
    (perm : entries.Perm entries') (name : String) : entries.get? name = entries'.get? name := by
  have distinct' : entries'.names.Nodup := (perm.map Prod.fst).nodup_iff.1 distinct
  cases found : entries.get? name with
  | some value => exact (get?_of_mem distinct' (perm.mem_iff.1 (mem_of_get? found))).symm
  | none =>
    refine (get?_eq_none_iff.2 fun mem => ?_).symm
    exact get?_eq_none_iff.1 found ((perm.map Prod.fst).mem_iff.2 mem)

end Entries

namespace Value

theorem entryDigests_eq (entries : Entries Value) :
    entryDigests entries = entries.map fun entry => (entry.1, digest entry.2) := by
  induction entries with
  | nil => rfl
  | cons entry rest ih => rw [entryDigests, ih, List.map_cons]

theorem get?_entryDigests (entries : Entries Value) (name : String) :
    Entries.get? (entryDigests entries) name = (entries.get? name).map digest := by
  rw [entryDigests_eq, Entries.get?_map]

theorem joinDigests_congr {entries entries' : Entries Value}
    (inside : ∀ name value, entries.get? name = some value →
      ∀ {value'}, value.same value' = true → value.digest = value'.digest)
    (all : ∀ name, sameOption (entries.get? name) (entries'.get? name) = true) :
    joinDigests (entryDigests entries) = joinDigests (entryDigests entries') := by
  have sorted : Entries.sorted (entryDigests entries) = Entries.sorted (entryDigests entries') := by
    refine Entries.sorted_congr fun name => ?_
    rw [get?_entryDigests, get?_entryDigests]
    have here := inside name
    have same := sameOption_iff.1 (all name)
    generalize entries.get? name = left at here same ⊢
    generalize entries'.get? name = right at same ⊢
    cases same with
    | none => rfl
    | some same => exact congrArg some (here _ rfl same)
  unfold joinDigests
  rw [sorted]

/-- Equal values have equal hashed content. -/
theorem same_digest {left right : Value} (h : left.same right = true) :
    left.digest = right.digest := by
  induction left using inside_induction generalizing right with
  | annot type values ih =>
    cases right with
    | annot type' values' =>
      obtain ⟨rfl, all⟩ := same_annot_iff.1 h
      rw [digest, digest, joinDigests_congr ih all]
    | _ => cases h
  | store type name values ih =>
    cases right with
    | store type' name' values' => rw [digest, digest, joinDigests_congr ih (same_store_iff.1 h)]
    | _ => cases h
  | array items ih =>
    cases right with
    | array items' =>
      have all := same_array_iff.1 h
      have inside : itemDigests items = itemDigests items' := by
        clear h
        induction all with
        | nil => rfl
        | cons here _ later =>
          rw [itemDigests, itemDigests, ih _ (.head _) here,
            later fun item mem => ih item (.tail _ mem)]
      rw [digest, digest, all.length_eq, inside]
    | _ => cases h
  | _ =>
    cases right with
    | _ => first | cases h | simp_all [same]

/-- The same value with its entries put in in another order, at any depth. -/
inductive Reordered : Value → Value → Prop
  | refl {value : Value} : Reordered value value
  | array {items items' : List Value} : List.Forall₂ Reordered items items' →
    Reordered (.array items) (.array items')
  | annot {type : String} {values between values' : Entries Value} : values.names.Nodup →
    values.Perm between → between.names = values'.names →
    List.Forall₂ Reordered (between.map Prod.snd) (values'.map Prod.snd) →
    Reordered (.annot type values) (.annot type values')
  | store {type name : Option String} {values between values' : Entries Value} :
    values.names.Nodup → values.Perm between → between.names = values'.names →
    List.Forall₂ Reordered (between.map Prod.snd) (values'.map Prod.snd) →
    Reordered (.store type name values) (.store type name values')

theorem rel_of_forall₂ {R S : Value → Value → Prop} {entries entries' : Entries Value}
    (names : entries.names = entries'.names)
    (h : List.Forall₂ R (entries.map Prod.snd) (entries'.map Prod.snd))
    (step : ∀ entry ∈ entries, ∀ value', R entry.2 value' → S entry.2 value') (name : String) :
    Option.Rel S (entries.get? name) (entries'.get? name) := by
  induction entries generalizing entries' with
  | nil =>
    cases entries' with
    | nil => exact .none
    | cons entry' rest' => cases names
  | cons entry rest ih =>
    cases entries' with
    | nil => cases names
    | cons entry' rest' =>
      obtain ⟨key, value⟩ := entry
      obtain ⟨key', value'⟩ := entry'
      obtain ⟨rfl, tails⟩ := List.cons.inj names
      obtain ⟨here, later⟩ := List.forall₂_cons.1 h
      rw [Entries.get?_cons, Entries.get?_cons]
      split
      · exact .some (step _ (.head _) value' here)
      · exact ih tails later fun entry mem => step entry (.tail _ mem)

/-- With distinct names, another order of the entries finds the same. -/
theorem rel_of_reordered {R : Value → Value → Prop} {values between values' : Entries Value}
    (inside : ∀ name value, values.get? name = some value →
      ∀ {right}, Reordered value right → R value right)
    (distinct : values.names.Nodup) (perm : values.Perm between)
    (names : between.names = values'.names)
    (all : List.Forall₂ Reordered (between.map Prod.snd) (values'.map Prod.snd)) :
    (Entries.names values').Nodup ∧ ∀ name, Option.Rel R (values.get? name) (values'.get? name) := by
  refine ⟨names ▸ (perm.map Prod.fst).nodup_iff.1 distinct, fun name => ?_⟩
  rw [Entries.get?_perm distinct perm]
  refine rel_of_forall₂ names all (fun entry mem value' related => ?_) name
  exact inside entry.1 entry.2 (Entries.get?_of_mem distinct (perm.mem_iff.2 mem)) related

theorem Reordered.twins {left right : Value} (h : Reordered left right) : left.Twins right := by
  induction left using inside_induction generalizing right with
  | annot type values ih =>
    cases h with
    | refl => exact .refl
    | annot distinct perm names all =>
      obtain ⟨distinct', related⟩ := rel_of_reordered ih distinct perm names all
      exact .annot distinct distinct' related
  | store type name values ih =>
    cases h with
    | refl => exact .refl
    | store distinct perm names all =>
      obtain ⟨distinct', related⟩ := rel_of_reordered ih distinct perm names all
      exact .store distinct distinct' related
  | array items ih =>
    cases h with
    | refl => exact .refl
    | array all =>
      refine .array ?_
      induction all with
      | nil => exact .nil
      | cons here _ later =>
        exact .cons (ih _ (.head _) here) (later fun item mem => ih item (.tail _ mem))
  | _ =>
    cases h with
    | refl => exact .refl

end Value
end Annotations
