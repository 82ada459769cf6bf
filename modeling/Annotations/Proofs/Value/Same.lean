import Annotations.Value
import Mathlib.Data.List.Forall2

/-!
Equality of values is an equivalence. Annotations of one type, and any two stores, are equal exactly
if they have equal values under each name, so neither order nor shadowed entries count.
-/
namespace Annotations

/-- Each member of a list has a partner in a list related to it. -/
theorem partner_of_forall₂ {α β : Type} {R : α → β → Prop} {items : List α} {items' : List β}
    (h : List.Forall₂ R items items') {item : α} (mem : item ∈ items) :
    ∃ item' ∈ items', R item item' := by
  induction h with
  | nil => cases mem
  | cons here _ ih =>
    rcases List.mem_cons.1 mem with rfl | mem
    · exact ⟨_, .head _, here⟩
    · obtain ⟨item', mem', related⟩ := ih mem
      exact ⟨item', .tail _ mem', related⟩

namespace Value

theorem within_iff (seen : List String) (entries others : Entries Value) :
    within seen entries others = true ↔ ∀ name ∉ seen, ∀ value, entries.get? name = some value →
      ∃ other, others.get? name = some other ∧ same value other = true := by
  induction entries generalizing seen with
  | nil => simp [within]
  | cons entry rest ih =>
    obtain ⟨key, head⟩ := entry
    rw [within, Bool.and_eq_true, ih]
    constructor
    · rintro ⟨here, later⟩ name fresh value found
      rw [Entries.get?_cons] at found
      split at found
      · rename_i same
        subst same
        cases found
        have unseen : seen.contains key = false := by simpa using fresh
        simp only [unseen, Bool.false_or] at here
        split at here
        · rename_i other there
          exact ⟨other, there, here⟩
        · cases here
      · rename_i apart
        exact later name (by simp [fresh, Ne.symm apart]) value found
    · intro all
      refine ⟨?_, fun name fresh value found => ?_⟩
      · rw [Bool.or_eq_true]
        by_cases before : key ∈ seen
        · exact .inl (by simpa using before)
        · obtain ⟨other, there, same⟩ := all key before head (by simp)
          rw [there]
          exact .inr same
      · obtain ⟨apart, fresh⟩ := not_or.1 (mt List.mem_cons.2 fresh)
        exact all name fresh value (by rw [Entries.get?_cons, if_neg (Ne.symm apart), found])

theorem namesWithin_iff (entries others : Entries Value) :
    namesWithin entries others = true ↔
      ∀ name, entries.get? name ≠ none → others.get? name ≠ none := by
  induction entries with
  | nil => simp [namesWithin]
  | cons entry rest ih =>
    obtain ⟨key, head⟩ := entry
    rw [namesWithin, Bool.and_eq_true, ih, Entries.has, Option.isSome_iff_ne_none]
    constructor
    · rintro ⟨here, later⟩ name found
      rw [Entries.get?_cons] at found
      split at found
      · rename_i same
        exact same ▸ here
      · exact later name found
    · refine fun all => ⟨all key (by simp), fun name found => ?_⟩
      by_cases same : key = name
      · exact all name (by simp [same])
      · exact all name (by simpa [same] using found)

/-- Entries are equal if they have equal values under each name. -/
theorem sameEntries_iff {a b : Entries Value} : sameEntries a b = true ↔
    ∀ name, sameOption (a.get? name) (b.get? name) = true := by
  rw [sameEntries, Bool.and_eq_true, within_iff, namesWithin_iff]
  constructor
  · rintro ⟨values, names⟩ name
    cases left : a.get? name with
    | some value =>
      obtain ⟨other, right, same⟩ := values name (by simp) value left
      rw [right]
      exact same
    | none =>
      cases right : b.get? name with
      | none => rfl
      | some other => exact absurd left (names name (by simp [right]))
  · intro all
    refine ⟨fun name _ value left => ?_, fun name right left => ?_⟩
    · have same := all name
      rw [left] at same
      cases right : b.get? name with
      | none =>
        rw [right] at same
        cases same
      | some other =>
        rw [right] at same
        exact ⟨other, rfl, same⟩
    · have same := all name
      rw [left] at same
      cases found : b.get? name with
      | none => exact right found
      | some other =>
        rw [found] at same
        cases same

theorem same_annot_iff {type type' : String} {a b : Entries Value} :
    same (.annot type a) (.annot type' b) = true ↔ type = type' ∧
      ∀ name, sameOption (a.get? name) (b.get? name) = true := by
  rw [← sameEntries_iff, same, sameEntries, Bool.and_assoc, Bool.and_eq_true, beq_iff_eq]

theorem same_store_iff {type type' name name' : Option String} {a b : Entries Value} :
    same (.store type name a) (.store type' name' b) = true ↔
      ∀ name, sameOption (a.get? name) (b.get? name) = true := by
  rw [← sameEntries_iff, same, sameEntries]

theorem same_array_iff {items items' : List Value} :
    same (.array items) (.array items') = true ↔
      List.Forall₂ (fun item item' => same item item' = true) items items' := by
  rw [same]
  induction items generalizing items' with
  | nil =>
    cases items' with
    | nil => simp [sameItems]
    | cons item' rest' => simp [sameItems]
  | cons item rest ih =>
    cases items' with
    | nil => simp [sameItems]
    | cons item' rest' => rw [sameItems, Bool.and_eq_true, List.forall₂_cons, ih]

/-- Induction on a value goes through the items of arrays and the values under the names of
annotations and stores. -/
@[elab_as_elim]
theorem inside_induction {P : Value → Prop} (text : ∀ content, P (.text content))
    (boolean : ∀ flag, P (.boolean flag)) (long : ∀ number, P (.long number))
    (double : ∀ bits, P (.double bits)) (classRef : ∀ name, P (.classRef name))
    (enum : ∀ type constant, P (.enum type constant))
    (annot : ∀ type values, (∀ name value, Entries.get? values name = some value → P value) →
      P (.annot type values))
    (store : ∀ type name values, (∀ name value, Entries.get? values name = some value → P value) →
      P (.store type name values))
    (array : ∀ items, (∀ item ∈ items, P item) → P (.array items)) (value : Value) : P value :=
  have smaller {values : Entries Value} {name : String} {inner : Value}
      (h : values.get? name = some inner) : sizeOf inner < sizeOf values := by
    have := List.sizeOf_lt_of_mem (Entries.mem_of_get? h)
    simp only [Prod.mk.sizeOf_spec] at this
    omega
  match value with
  | .text content => text content
  | .boolean flag => boolean flag
  | .long number => long number
  | .double bits => double bits
  | .classRef name => classRef name
  | .enum type constant => enum type constant
  | .annot type values => annot type values fun name inner found =>
    have := smaller found
    inside_induction text boolean long double classRef enum annot store array inner
  | .store type name values => store type name values fun _ inner found =>
    have := smaller found
    inside_induction text boolean long double classRef enum annot store array inner
  | .array items => array items fun item mem =>
    have := List.sizeOf_lt_of_mem mem
    inside_induction text boolean long double classRef enum annot store array item
termination_by sizeOf value

theorem same_refl (value : Value) : value.same value = true := by
  have option {entries : Entries Value}
      (h : ∀ name value, entries.get? name = some value → value.same value = true) (name : String) :
      sameOption (entries.get? name) (entries.get? name) = true := by
    cases found : entries.get? name with
    | none => rfl
    | some inner => exact h name inner found
  induction value using inside_induction with
  | annot type values ih => exact same_annot_iff.2 ⟨rfl, option ih⟩
  | store type name values ih => exact same_store_iff.2 (option ih)
  | array items ih => exact same_array_iff.2 (List.forall₂_same.2 ih)
  | _ => simp [same]

theorem sameOption_iff {left right : Option Value} :
    sameOption left right = true ↔ Option.Rel (fun a b => a.same b = true) left right := by
  constructor
  · intro h
    cases left <;> cases right
    · exact .none
    · cases h
    · cases h
    · exact .some h
  · intro h
    cases h with
    | none => rfl
    | some same => exact same

theorem same_symm {left right : Value} (h : left.same right = true) : right.same left = true := by
  have option {entries entries' : Entries Value}
      (h : ∀ name value, entries.get? name = some value →
        ∀ {right}, value.same right = true → right.same value = true)
      (all : ∀ name, sameOption (entries.get? name) (entries'.get? name) = true) (name : String) :
      sameOption (entries'.get? name) (entries.get? name) = true := by
    have here := h name
    have same := sameOption_iff.1 (all name)
    generalize entries.get? name = left at here same ⊢
    generalize entries'.get? name = right at same ⊢
    cases same with
    | none => rfl
    | some same => exact here _ rfl same
  induction left using inside_induction generalizing right with
  | annot type values ih =>
    cases right with
    | annot type' values' =>
      obtain ⟨rfl, all⟩ := same_annot_iff.1 h
      exact same_annot_iff.2 ⟨rfl, option ih all⟩
    | _ => cases h
  | store type name values ih =>
    cases right with
    | store type' name' values' => exact same_store_iff.2 (option ih (same_store_iff.1 h))
    | _ => cases h
  | array items ih =>
    cases right with
    | array items' =>
      refine same_array_iff.2 ?_
      have all := same_array_iff.1 h
      clear h
      induction all with
      | nil => exact .nil
      | cons here _ later =>
        exact .cons (ih _ (.head _) here) (later fun item mem => ih item (.tail _ mem))
    | _ => cases h
  | _ =>
    cases right with
    | _ => first | cases h | simp_all [same]

theorem same_trans {left middle right : Value} (h : left.same middle = true)
    (h' : middle.same right = true) : left.same right = true := by
  have option {entries entries' entries'' : Entries Value}
      (h : ∀ name value, entries.get? name = some value →
        ∀ {middle right}, value.same middle = true → middle.same right = true →
          value.same right = true)
      (all : ∀ name, sameOption (entries.get? name) (entries'.get? name) = true)
      (all' : ∀ name, sameOption (entries'.get? name) (entries''.get? name) = true)
      (name : String) : sameOption (entries.get? name) (entries''.get? name) = true := by
    have here := h name
    have same := sameOption_iff.1 (all name)
    have same' := sameOption_iff.1 (all' name)
    generalize entries.get? name = left at here same ⊢
    generalize entries'.get? name = middle at same same'
    generalize entries''.get? name = right at same' ⊢
    cases same with
    | none =>
      cases same' with
      | none => rfl
    | some same =>
      cases same' with
      | some same' => exact here _ rfl same same'
  induction left using inside_induction generalizing middle right with
  | annot type values ih =>
    cases middle with
    | annot type' values' =>
      cases right with
      | annot type'' values'' =>
        obtain ⟨rfl, all⟩ := same_annot_iff.1 h
        obtain ⟨rfl, all'⟩ := same_annot_iff.1 h'
        exact same_annot_iff.2 ⟨rfl, option ih all all'⟩
      | _ => cases h'
    | _ => cases h
  | store type name values ih =>
    cases middle with
    | store type' name' values' =>
      cases right with
      | store type'' name'' values'' =>
        exact same_store_iff.2 (option ih (same_store_iff.1 h) (same_store_iff.1 h'))
      | _ => cases h'
    | _ => cases h
  | array items ih =>
    cases middle with
    | array items' =>
      cases right with
      | array items'' =>
        refine same_array_iff.2 ?_
        have all := same_array_iff.1 h
        have all' := same_array_iff.1 h'
        clear h h'
        induction all generalizing items'' with
        | nil =>
          cases all'
          exact .nil
        | cons here _ later =>
          cases all' with
          | cons here' rest' =>
            exact .cons (ih _ (.head _) here here')
              (later (fun item mem => ih item (.tail _ mem)) _ rest')
      | _ => cases h'
    | _ => cases h
  | _ =>
    cases middle with
    | _ => first | cases h | (cases right with | _ => first | cases h' | simp_all [same])

/-- Equal values are alike to every third one. -/
theorem same_congr {a a' b b' : Value} (left : a.same a' = true) (right : b.same b' = true) :
    a.same b = a'.same b' := by
  rw [Bool.eq_iff_iff]
  exact ⟨fun h => same_trans (same_symm left) (same_trans h right),
    fun h => same_trans left (same_trans h (same_symm right))⟩

theorem sameOption_symm {a b : Option Value} (h : sameOption a b = true) :
    sameOption b a = true := by
  cases sameOption_iff.1 h with
  | none => rfl
  | some same => exact same_symm same

theorem sameOption_comm (a b : Option Value) : sameOption a b = sameOption b a :=
  Bool.eq_iff_iff.2 ⟨sameOption_symm, sameOption_symm⟩

theorem sameOption_congr {a a' b b' : Option Value} (left : sameOption a a' = true)
    (right : sameOption b b' = true) : sameOption a b = sameOption a' b' := by
  cases sameOption_iff.1 left with
  | none =>
    cases sameOption_iff.1 right with
    | none => rfl
    | some _ => rfl
  | some same =>
    cases sameOption_iff.1 right with
    | none => rfl
    | some same' => exact same_congr same same'

theorem sameOption_isSome {left right : Option Value} (h : sameOption left right = true) :
    left.isSome = right.isSome := by
  cases sameOption_iff.1 h with
  | none => rfl
  | some _ => rfl

theorem sameOption_refl (value : Option Value) : sameOption value value = true := by
  cases value with
  | none => rfl
  | some value => exact same_refl value

end Value
end Annotations
