import Annotations.Merge
import Annotations.Proofs.Alias.Groups

/-!
How alias groups are completed. The declared values of an attribute and of its aliases are compared;
an attribute without one gets the value of its first alias that has one, or else keeps what it has.
-/
namespace Annotations
namespace Pending

open Registry

variable {type elementText name : String} {declared : Entries Value} {slots slots' : Entries Slot}

/-- Declared values only are compared; slots stay as they are. -/
theorem shareAmong_declared {value : Value} (own : declared.get? name = some value)
    (partners : List String) :
    (shareAmong type elementText declared name partners slots = .ok slots ∧
      ∀ partner ∈ partners, ∀ other, declared.get? partner = some other → value.same other = true) ∨
    ∃ partner ∈ partners, ∃ other, declared.get? partner = some other ∧ value.same other = false ∧
      shareAmong type elementText declared name partners slots =
        .error (.attributeConflict type elementText name partner value.display other.display) := by
  induction partners with
  | nil => exact .inl ⟨rfl, by simp⟩
  | cons partner rest ih =>
    rw [shareAmong, own]
    cases theirs : declared.get? partner with
    | none =>
      simp only
      refine ih.imp (And.imp_right fun all other mem => ?_) fun ⟨other, mem, found⟩ =>
        ⟨other, .tail partner mem, found⟩
      rcases List.mem_cons.1 mem with rfl | mem
      · simp [theirs]
      · exact all other mem
    | some other =>
      simp only
      cases same : value.same other with
      | false => exact .inr ⟨partner, .head rest, other, theirs, same, by simp⟩
      | true =>
        simp only [if_true]
        refine ih.imp (And.imp_right fun all other' mem => ?_) fun ⟨other', mem, found⟩ =>
          ⟨other', .tail partner mem, found⟩
        rcases List.mem_cons.1 mem with rfl | mem
        · intro value' theirs'
          cases theirs.symm.trans theirs'
          exact same
        · exact all other' mem

theorem shareAmong_given (undeclared : declared.get? name = none)
    (given : ((slots.get? name).bind Slot.given?).isSome) (partners : List String) :
    shareAmong type elementText declared name partners slots = .ok slots := by
  induction partners with
  | nil => rfl
  | cons partner rest ih =>
    rw [shareAmong, undeclared]
    cases declared.get? partner with
    | none => exact ih
    | some other =>
      simp only [given, if_true]
      exact ih

/-- An attribute without a value takes that of its first alias that declares one. -/
theorem shareAmong_open (undeclared : declared.get? name = none)
    (unset : (slots.get? name).bind Slot.given? = none) (partners : List String) :
    shareAmong type elementText declared name partners slots =
      .ok (match partners.findSome? declared.get? with
        | some other => slots.put name (.given other)
        | none => slots) := by
  induction partners with
  | nil => rfl
  | cons partner rest ih =>
    rw [shareAmong, undeclared, List.findSome?_cons]
    cases theirs : declared.get? partner with
    | none => exact ih
    | some other =>
      simp only [unset, Option.isSome_none, Bool.false_eq_true, if_false]
      exact shareAmong_given undeclared (by simp [Slot.given?]) rest

/-- The slot of an attribute once it was compared with its aliases. -/
def completed (declared : Entries Value) (partners : List String) (slots : Entries Slot)
    (name : String) : Option Slot :=
  match declared.get? name with
  | some _ => slots.get? name
  | none =>
    match partners.findSome? declared.get? with
    | some other => some (.given other)
    | none => slots.get? name

theorem shareAmong_completed {partners : List String}
    (unset : declared.get? name = none → (slots.get? name).bind Slot.given? = none)
    (h : shareAmong type elementText declared name partners slots = .ok slots') :
    (∀ value, declared.get? name = some value → ∀ partner ∈ partners, ∀ other,
      declared.get? partner = some other → value.same other = true) ∧
    (∀ other, slots'.get? other =
      if other = name then completed declared partners slots name else slots.get? other) ∧
    (slots.names.Nodup → slots'.names.Nodup) := by
  unfold completed
  cases own : declared.get? name with
  | some value =>
    rcases shareAmong_declared own partners with ⟨same, agree⟩ | ⟨_, _, _, _, _, failed⟩
    · cases same.symm.trans h
      refine ⟨?_, fun other => ?_, id⟩
      · rintro value' ⟨⟩
        exact agree
      · split
        · rename_i here
          rw [here]
        · rfl
    · cases failed.symm.trans h
  | none =>
    rw [shareAmong_open own (unset own)] at h
    refine ⟨by simp, ?_⟩
    simp only
    cases found : partners.findSome? declared.get? with
    | none =>
      rw [found] at h
      cases h
      refine ⟨fun other => ?_, id⟩
      simp only
      split
      · rename_i here
        rw [here]
      · rfl
    | some value =>
      rw [found] at h
      cases h
      refine ⟨fun other => ?_, fun distinct => Entries.nodup_names_put distinct _ _⟩
      rw [Entries.get?_put]
      simp only [eq_comm]

/-- What a completed map of slots looks like. -/
structure Shared (declared : Entries Value) (groups : Entries (List String))
    (slots slots' : Entries Slot) : Prop where
  agree : ∀ name value, declared.get? name = some value → ∀ partner ∈ listed groups name, ∀ other,
    declared.get? partner = some other → value.same other = true
  final : ∀ name, slots'.get? name = completed declared (listed groups name) slots name
  distinct : slots.names.Nodup → slots'.names.Nodup

/-- A completed slot is what it was, or given what an alias declares. -/
theorem of_completed {partners : List String} {slot : Slot}
    (h : completed declared partners slots name = some slot) :
    slots.get? name = some slot ∨
      ∃ partner ∈ partners, ∃ value, declared.get? partner = some value ∧ slot = .given value := by
  unfold completed at h
  split at h
  · exact .inl h
  · split at h
    · rename_i value first
      obtain ⟨partner, mem, found⟩ := List.exists_of_findSome?_eq_some first
      exact .inr ⟨partner, mem, value, found, (Option.some.inj h).symm⟩
    · exact .inl h

theorem completed_isSome {partners : List String} (h : (slots.get? name).isSome = true) :
    (completed declared partners slots name).isSome = true := by
  unfold completed
  split
  · exact h
  · split
    · rfl
    · exact h

theorem completed_nil (name : String) : completed declared [] slots name = slots.get? name := by
  unfold completed
  cases declared.get? name with
  | none => rfl
  | some _ => rfl

theorem completed_congr {partners : List String} (same : slots'.get? name = slots.get? name) :
    completed declared partners slots' name = completed declared partners slots name := by
  unfold completed
  rw [same]

theorem shareAll_shared {groups : Entries (List String)} (distinct : groups.names.Nodup)
    (unset : ∀ name, declared.get? name = none → name ∈ groups.names →
      (slots.get? name).bind Slot.given? = none)
    (h : shareAll type elementText declared groups slots = .ok slots') :
    Shared declared groups slots slots' := by
  induction groups generalizing slots with
  | nil =>
    cases h
    exact ⟨fun name value _ partner mem => (by cases mem), fun name => (completed_nil name).symm,
      id⟩
  | cons group rest ih =>
    obtain ⟨key, partners⟩ := group
    obtain ⟨fresh, distinct⟩ := List.nodup_cons.1 distinct
    obtain ⟨middle, among, h⟩ := Outcome.bind_ok h
    obtain ⟨agree, step, keeps⟩ := shareAmong_completed (fun own => unset key own (.head _)) among
    have elsewhere {other : String} (mem : other ∈ Entries.names rest) : key ≠ other := by
      rintro rfl
      exact fresh mem
    have later := ih distinct (fun other own mem => by
      rw [step, if_neg (elsewhere mem).symm]
      exact unset other own (.tail key mem)) h
    have ahead : listed rest key = [] := by
      rw [listed, Entries.get?_eq_none_iff.2 fresh]
      rfl
    have here : listed ((key, partners) :: rest) key = partners := by simp [listed]
    have there {other : String} (apart : key ≠ other) :
        listed ((key, partners) :: rest) other = listed rest other := by simp [listed, apart]
    refine ⟨fun other value own => ?_, fun other => ?_, fun d => later.distinct (keeps d)⟩
    · by_cases same : key = other
      · subst same
        rw [here]
        exact agree value own
      · rw [there same]
        exact later.agree other value own
    · rw [later.final]
      by_cases same : key = other
      · subst same
        rw [here, ahead, completed_nil, step, if_pos rfl]
      · rw [there same]
        exact completed_congr (by rw [step, if_neg (Ne.symm same)])

/-- Completion never leaves an attribute at a default that it was not at before, nor one with an alias
that declares a value. -/
theorem Shared.default {groups : Entries (List String)} (h : Shared declared groups slots slots')
    {value : Value} (own : slots'.get? name = some (.default value)) :
    slots.get? name = some (.default value) ∧ (declared.get? name = none →
      ∀ partner ∈ listed groups name, declared.get? partner = none) := by
  rw [h.final] at own
  unfold completed at own
  split at own
  · rename_i there
    exact ⟨own, fun absent => by cases there.symm.trans absent⟩
  · split at own
    · cases own
    · rename_i alone
      exact ⟨own, fun _ => List.findSome?_eq_none_iff.1 alone⟩

/-- Completion fails only at an attribute and an alias of it that declare different values. -/
theorem shareAll_error {groups : Entries (List String)} {e : Error} (distinct : groups.names.Nodup)
    (unset : ∀ name, declared.get? name = none → name ∈ groups.names →
      (slots.get? name).bind Slot.given? = none)
    (h : shareAll type elementText declared groups slots = .error e) :
    ∃ name value partner other, declared.get? name = some value ∧ partner ∈ listed groups name ∧
      declared.get? partner = some other ∧ value.same other = false ∧
      e = .attributeConflict type elementText name partner value.display other.display := by
  induction groups generalizing slots with
  | nil => cases h
  | cons group rest ih =>
    obtain ⟨key, partners⟩ := group
    obtain ⟨fresh, distinct⟩ := List.nodup_cons.1 distinct
    have elsewhere {other : String} (mem : other ∈ Entries.names rest) : key ≠ other := by
      rintro rfl
      exact fresh mem
    have here : listed ((key, partners) :: rest) key = partners := by simp [listed]
    rw [shareAll] at h
    cases among : shareAmong type elementText declared key partners slots with
    | error e' =>
      rw [among] at h
      cases h
      cases own : declared.get? key with
      | none =>
        rw [shareAmong_open own (unset key own (.head _))] at among
        cases among
      | some value =>
        rcases shareAmong_declared own partners with
          ⟨same, _⟩ | ⟨partner, mem, other, found, apart, failed⟩
        · cases same.symm.trans among
        · cases failed.symm.trans among
          exact ⟨key, value, partner, other, own, here.symm ▸ mem, found, apart, rfl⟩
    | ok middle =>
      rw [among] at h
      obtain ⟨_, step, _⟩ := shareAmong_completed (fun own => unset key own (.head _)) among
      obtain ⟨name, value, partner, other, own, mem, found⟩ := ih distinct (fun other own mem => by
        rw [step, if_neg (elsewhere mem).symm]
        exact unset other own (.tail key mem)) h
      refine ⟨name, value, partner, other, own, ?_, found⟩
      by_cases same : key = name
      · subst same
        rw [listed, Entries.get?_eq_none_iff.2 fresh] at mem
        cases mem
      · rw [listed, Entries.get?_cons, if_neg same]
        exact mem

end Pending
end Annotations
