import Annotations.Proofs.Action.Yields
import Annotations.Proofs.Merge.Questions
import Annotations.Proofs.Merge.Share
import Annotations.Proofs.Value.Same

/-!
From an annotation to slots and from slots to a store: an attribute's slot holds the rendered value
that was given or the default as it stands, and a store holds given values as they are and defaults
rendered.
-/
namespace Annotations

open Annotations.Action
open Value (sameOption sameOption_refl)

variable {I : SynthMemo → Prop} {render : Value → Action SynthMemo Value}

/-- A slot that an annotation gives an attribute. -/
def Slot.Of (I : SynthMemo → Prop) (render : Value → Action SynthMemo Value) (annot : Annot)
    (attr : Attr) (slot : Slot) : Prop :=
  ∃ value, (annot.value? attr.name).or attr.default? = some value ∧
    ((sameOption attr.default? (some value) = true ∧ slot = .default value) ∨
      (sameOption attr.default? (some value) = false ∧
        ∃ rendered, slot = .given rendered ∧ Yields I (render value) (.ok rendered)))

/-- What a store can hold for a slot. -/
def Slot.Stored (I : SynthMemo → Prop) (render : Value → Action SynthMemo Value) :
    Slot → Value → Prop
  | .given value, stored => stored = value
  | .default value, stored => Yields I (render value) (.ok stored)

namespace Registry

theorem slotsOf_cons {annot : Annot} {attr : Attr} {rest : List Attr} {slots slots' : Entries Slot}
    (keeps : ∀ value, Keeps I (render value))
    (h : Yields I (slotsOf render annot (attr :: rest) slots) (.ok slots')) :
    ∃ slot, Slot.Of I render annot attr slot ∧
      Yields I (slotsOf render annot rest (slots.put attr.name slot)) (.ok slots') := by
  unfold slotsOf at h
  split at h
  · cases h.throw
  · rename_i value given
    dsimp only at h
    split at h
    · rename_i default'
      obtain ⟨slot, made, h⟩ := h.bind_ok ((Keeps.closed I).pure _)
      cases made.pure
      exact ⟨.default value, ⟨value, given, .inl ⟨default', rfl⟩⟩, h⟩
    · rename_i apart
      obtain ⟨slot, made, h⟩ := h.bind_ok ((Keeps.closed I).map _ (keeps value))
      obtain ⟨rendered, yields, rfl⟩ := made.map_ok
      exact ⟨.given rendered,
        ⟨value, given, .inr ⟨by simpa using apart, rendered, rfl, yields⟩⟩, h⟩

/-- Every attribute gets a slot of its own, and nothing else does. -/
theorem slotsOf_slots {annot : Annot} {attrs : List Attr} {slots slots' : Entries Slot}
    (keeps : ∀ value, Keeps I (render value))
    (h : Yields I (slotsOf render annot attrs slots) (.ok slots')) :
    (∀ name ∉ attrs.map (·.name), slots'.get? name = slots.get? name) ∧
    (∀ name ∈ attrs.map (·.name), ∃ attr ∈ attrs, attr.name = name ∧
      ∃ slot, slots'.get? name = some slot ∧ Slot.Of I render annot attr slot) ∧
    (slots.names.Nodup → slots'.names.Nodup) := by
  induction attrs generalizing slots with
  | nil =>
    cases h.pure
    exact ⟨fun _ _ => rfl, by simp, id⟩
  | cons attr rest ih =>
    obtain ⟨slot, own, h⟩ := slotsOf_cons keeps h
    obtain ⟨others, later, distinct⟩ := ih h
    refine ⟨fun name fresh => ?_, fun name mem => ?_, fun nodup =>
      distinct (Entries.nodup_names_put nodup _ _)⟩
    · obtain ⟨apart, fresh⟩ := not_or.1 (mt List.mem_cons.2 fresh)
      rw [others name fresh, Entries.get?_put, if_neg (Ne.symm apart)]
    · by_cases again : name ∈ rest.map (·.name)
      · obtain ⟨other, mem, same, found⟩ := later name again
        exact ⟨other, .tail attr mem, same, found⟩
      · have here : name = attr.name := (List.mem_cons.1 mem).resolve_right again
        subst here
        refine ⟨attr, .head rest, rfl, slot, ?_, own⟩
        rw [others _ again, Entries.get?_put, if_pos rfl]

theorem slotsOf_error {annot : Annot} {attrs : List Attr} {slots : Entries Slot} {e : Error}
    (keeps : ∀ value, Keeps I (render value))
    (h : Yields I (slotsOf render annot attrs slots) (.error e)) :
    ∃ attr ∈ attrs, ((annot.value? attr.name).or attr.default? = none ∧
        e = .missingAttributeValue annot.type attr.name) ∨
      ∃ value, (annot.value? attr.name).or attr.default? = some value ∧
        sameOption attr.default? (some value) = false ∧ Yields I (render value) (.error e) := by
  induction attrs generalizing slots with
  | nil => cases h.pure
  | cons attr rest ih =>
    unfold slotsOf at h
    split at h
    · rename_i absent
      exact ⟨attr, .head rest, .inl ⟨absent, Except.error.inj h.throw⟩⟩
    · rename_i value given
      dsimp only at h
      have deeper {slot : Slot}
          (h : Yields I (slotsOf render annot rest (slots.put attr.name slot)) (.error e)) :=
        Exists.imp (fun other found => And.imp_left (List.mem_cons_of_mem attr) found) (ih h)
      split at h
      · rcases h.bind_error ((Keeps.closed I).pure _) with failed | ⟨slot, _, h⟩
        · cases failed.pure
        · exact deeper h
      · rename_i apart
        rcases h.bind_error ((Keeps.closed I).map _ (keeps value)) with failed | ⟨slot, _, h⟩
        · exact ⟨attr, .head rest,
            .inr ⟨value, given, by simpa using apart, failed.map_error⟩⟩
        · exact deeper h

theorem storeSlots_cons {name : String} {slot : Slot} {rest : Entries Slot} {store store' : Store}
    (keeps : ∀ value, Keeps I (render value))
    (h : Yields I (storeSlots render ((name, slot) :: rest) store) (.ok store')) :
    ∃ value, slot.Stored I render value ∧
      Yields I (storeSlots render rest (store.put name value)) (.ok store') := by
  unfold storeSlots at h
  cases slot with
  | given value =>
    obtain ⟨value', made, h⟩ := h.bind_ok ((Keeps.closed I).pure _)
    cases made.pure
    exact ⟨value, rfl, h⟩
  | default value =>
    obtain ⟨value', made, h⟩ := h.bind_ok (keeps value)
    exact ⟨value', made, h⟩

/-- A store holds what its slots say, and otherwise what it held before. -/
theorem storeSlots_stored {slots : Entries Slot} {store store' : Store}
    (keeps : ∀ value, Keeps I (render value)) (distinct : slots.names.Nodup)
    (h : Yields I (storeSlots render slots store) (.ok store')) :
    store'.type = store.type ∧
      (∀ name, slots.get? name = none → store'.get? name = store.get? name) ∧
      ∀ name slot, slots.get? name = some slot →
        ∃ value, store'.get? name = some value ∧ slot.Stored I render value := by
  induction slots generalizing store with
  | nil =>
    cases h.pure
    exact ⟨rfl, fun _ _ => rfl, by simp⟩
  | cons entry rest ih =>
    obtain ⟨key, slot⟩ := entry
    obtain ⟨fresh, distinct⟩ := List.nodup_cons.1 distinct
    obtain ⟨value, stored, h⟩ := storeSlots_cons keeps h
    obtain ⟨type, others, later⟩ := ih distinct h
    have put (name : String) : (store.put key value).get? name =
        if key = name then some value else store.get? name := Entries.get?_put _ _ _ _
    refine ⟨type, fun name absent => ?_, fun name slot' found => ?_⟩
    · rw [Entries.get?_cons] at absent
      split at absent
      · cases absent
      · rename_i apart
        rw [others name absent, put, if_neg apart]
    · rw [Entries.get?_cons] at found
      split at found
      · rename_i same
        subst same
        cases found
        refine ⟨value, ?_, stored⟩
        rw [others key (Entries.get?_eq_none_iff.2 fresh), put, if_pos rfl]
      · exact later name slot' found

theorem storeSlots_type {slots : Entries Slot} {store store' : Store}
    (keeps : ∀ value, Keeps I (render value))
    (h : Yields I (storeSlots render slots store) (.ok store')) : store'.type = store.type := by
  induction slots generalizing store with
  | nil =>
    cases h.pure
    rfl
  | cons entry rest ih =>
    obtain ⟨_, _, h⟩ := storeSlots_cons keeps h
    exact (ih h).trans rfl

theorem storeSlots_error {slots : Entries Slot} {store : Store} {e : Error}
    (keeps : ∀ value, Keeps I (render value))
    (h : Yields I (storeSlots render slots store) (.error e)) :
    ∃ name value, (name, Slot.default value) ∈ slots ∧ Yields I (render value) (.error e) := by
  induction slots generalizing store with
  | nil => cases h.pure
  | cons entry rest ih =>
    obtain ⟨key, slot⟩ := entry
    unfold storeSlots at h
    cases slot with
    | given value =>
      rcases h.bind_error ((Keeps.closed I).pure _) with failed | ⟨_, _, h⟩
      · cases failed.pure
      · obtain ⟨name, value, mem, failed⟩ := ih h
        exact ⟨name, value, .tail _ mem, failed⟩
    | default value =>
      rcases h.bind_error (keeps value) with failed | ⟨_, _, h⟩
      · exact ⟨key, value, .head rest, failed⟩
      · obtain ⟨name, value, mem, failed⟩ := ih h
        exact ⟨name, value, .tail _ mem, failed⟩

end Registry

theorem Pending.declared_get? {pending : Pending} (distinct : pending.slots.names.Nodup)
    (name : String) : pending.declared.get? name = (pending.slots.get? name).bind Slot.given? := by
  unfold Pending.declared
  revert distinct
  generalize pending.slots = slots
  induction slots with
  | nil => simp
  | cons entry rest ih =>
    obtain ⟨key, slot⟩ := entry
    intro nodup
    obtain ⟨fresh, distinct⟩ := List.nodup_cons.1 nodup
    have later := ih distinct
    cases slot with
    | given value =>
      rw [List.filterMap_cons_some (b := (key, value)) (by rfl), Entries.get?_cons,
        Entries.get?_cons, later]
      split
      · rfl
      · rfl
    | default value =>
      rw [List.filterMap_cons_none (by rfl), later, Entries.get?_cons]
      split
      · rename_i same
        subst same
        rw [Entries.get?_eq_none_iff.2 fresh]
        rfl
      · rfl

theorem Pending.given_of_declared {pending : Pending} {name : String} {value : Value}
    (distinct : pending.slots.names.Nodup) (h : pending.declared.get? name = some value) :
    pending.slots.get? name = some (.given value) := by
  rw [declared_get? distinct] at h
  obtain ⟨slot, found, given⟩ := Option.bind_eq_some_iff.1 h
  cases slot with
  | default _ => cases given
  | given value' =>
    cases given
    exact found

/-- What an annotation by itself makes of the attributes of its type. -/
structure Pending.From (I : SynthMemo → Prop) (render : Value → Action SynthMemo Value)
    (annot : Annot) (decl : AnnotType) (pending : Pending) : Prop where
  type : pending.type = annot.type
  distinct : pending.slots.names.Nodup
  slot : ∀ name slot, pending.slots.get? name = some slot →
    ∃ attr ∈ decl.attrs, attr.name = name ∧ Slot.Of I render annot attr slot
  filled : ∀ attr ∈ decl.attrs, ∃ slot, pending.slots.get? attr.name = some slot

/-- A value that an annotation by itself gives is there explicitly and differs from the default. -/
theorem Pending.From.given {annot : Annot} {decl : AnnotType} {pending : Pending} {name : String}
    {rendered : Value} (h : pending.From I render annot decl)
    (own : pending.slots.get? name = some (.given rendered)) :
    ∃ attr ∈ decl.attrs, ∃ value, attr.name = name ∧ annot.value? name = some value ∧
      sameOption attr.default? (some value) = false ∧ Yields I (render value) (.ok rendered) := by
  obtain ⟨attr, mem, rfl, value, found, kind⟩ := h.slot name _ own
  rcases kind with ⟨_, isDefault⟩ | ⟨apart, rendered', isGiven, yields⟩
  · cases isDefault
  · cases isGiven
    refine ⟨attr, mem, value, rfl, ?_, apart, yields⟩
    cases explicit : annot.value? attr.name with
    | some value' =>
      rw [explicit] at found
      cases found
      rfl
    | none =>
      rw [explicit, Option.none_or] at found
      rw [found, sameOption_refl] at apart
      cases apart

/-- An attribute that an annotation by itself leaves at its default is given no value or an equal one. -/
theorem Pending.From.default {annot : Annot} {decl : AnnotType} {pending : Pending} {name : String}
    {value : Value} (h : pending.From I render annot decl)
    (own : pending.slots.get? name = some (.default value)) :
    ∃ attr ∈ decl.attrs, (annot.value? attr.name).or attr.default? = some value ∧
      sameOption attr.default? (some value) = true := by
  obtain ⟨attr, mem, rfl, value', found, kind⟩ := h.slot name _ own
  rcases kind with ⟨equal, isDefault⟩ | ⟨_, _, isGiven, _⟩
  · cases isDefault
    exact ⟨attr, mem, found, equal⟩
  · cases isGiven

namespace Registry

open SynthMemo

variable {reg : Registry}

theorem retrieveWith_from {annot : Annot} {pending : Pending}
    (keeps : ∀ value, Keeps (Sound reg) (render value))
    (h : Yields (Sound reg) (reg.retrieveWith render annot) (.ok pending)) :
    ∃ decl, reg.type annot.type = .ok decl ∧ pending.From (Sound reg) render annot decl := by
  obtain ⟨decl, known, h⟩ := h.bind_ok (reg.asked_keeps.lift _)
  obtain ⟨slots, made, h⟩ := h.bind_ok (reg.asked_keeps.slotsOf keeps annot decl.attrs [])
  cases h.pure
  obtain ⟨others, filled, nodup⟩ := slotsOf_slots keeps made
  refine ⟨decl, known.lift.symm, rfl, nodup (by simp), fun name slot own => ?_, fun attr mem => ?_⟩
  · by_cases declared : name ∈ decl.attrs.map (·.name)
    · obtain ⟨attr, mem, same, slot', found, made⟩ := filled name declared
      cases found.symm.trans own
      exact ⟨attr, mem, same, made⟩
    · cases (others name declared).symm.trans own
  · obtain ⟨_, _, _, slot, found, _⟩ := filled attr.name (List.mem_map_of_mem mem)
    exact ⟨slot, found⟩

theorem aliasMap_distinct {type : String} {groups : Entries (List String)}
    (h : reg.aliasMap type = .ok groups) : groups.names.Nodup := by
  obtain ⟨decl, map⟩ := aliasMapOf_aliasMap h
  exact map.maps.distinct

/-- The last step completes the alias groups and stores what is then in the slots. -/
theorem finishWith_slots {element : Element} {pending : Pending} {store : Store}
    (h : Yields (Sound reg) (reg.finishWith render element pending) (.ok store)) :
    ∃ groups slots, reg.aliasMap pending.type = .ok groups ∧
      Pending.shareAll pending.type element.display pending.declared groups pending.slots =
        .ok slots ∧
      Yields (Sound reg) (storeSlots render slots (Store.ofType pending.type)) (.ok store) := by
  obtain ⟨groups, mapped, h⟩ := h.bind_ok (reg.asked_keeps.aliasMap _)
  obtain ⟨slots, shared, h⟩ := h.bind_ok (reg.asked_keeps.lift _)
  exact ⟨groups, slots, (mapped.computes (reg.recallAliasMap_computes _)).symm, shared.lift.symm, h⟩

/-- A finished store holds, for each slot, what its completed alias group leaves there. -/
theorem finishWith_store {element : Element} {pending : Pending} {store : Store}
    (keeps : ∀ value, Keeps (Sound reg) (render value)) (distinct : pending.slots.names.Nodup)
    (h : Yields (Sound reg) (reg.finishWith render element pending) (.ok store)) :
    ∃ groups slots, reg.aliasMap pending.type = .ok groups ∧
      Pending.Shared pending.declared groups pending.slots slots ∧
      (∀ name, slots.get? name = none → store.get? name = none) ∧
      ∀ name slot, slots.get? name = some slot →
        ∃ value, store.get? name = some value ∧ slot.Stored (Sound reg) render value := by
  obtain ⟨groups, slots, mapped, shared, h⟩ := finishWith_slots h
  have shared := Pending.shareAll_shared (aliasMap_distinct mapped)
    (fun name own _ => by rw [← Pending.declared_get? distinct, own]) shared
  obtain ⟨_, absent, stored⟩ := storeSlots_stored keeps (shared.distinct distinct) h
  exact ⟨groups, slots, mapped, shared, absent, stored⟩

theorem finishWith_type {element : Element} {pending : Pending} {store : Store}
    (keeps : ∀ value, Keeps (Sound reg) (render value))
    (h : Yields (Sound reg) (reg.finishWith render element pending) (.ok store)) :
    store.type = some pending.type := by
  obtain ⟨_, slots, _, _, h⟩ := finishWith_slots h
  exact storeSlots_type keeps h

/-- Each value of a finished store is what its own slot leaves there, or was given to an alias. -/
theorem finishWith_held {element : Element} {pending : Pending} {store : Store}
    (keeps : ∀ value, Keeps (Sound reg) (render value)) (distinct : pending.slots.names.Nodup)
    (h : Yields (Sound reg) (reg.finishWith render element pending) (.ok store)) {name : String}
    {value : Value} (held : store.get? name = some value) :
    (∃ slot, pending.slots.get? name = some slot ∧ slot.Stored (Sound reg) render value) ∨
      ∃ groups partner, reg.aliasMap pending.type = .ok groups ∧ partner ∈ listed groups name ∧
        pending.slots.get? partner = some (.given value) := by
  obtain ⟨groups, slots, mapped, shared, absent, stored⟩ := finishWith_store keeps distinct h
  cases final : slots.get? name with
  | none => cases (absent name final).symm.trans held
  | some slot =>
    obtain ⟨value', held', holds⟩ := stored name slot final
    cases held.symm.trans held'
    rw [shared.final] at final
    rcases Pending.of_completed final with own | ⟨partner, listed, given, declared, rfl⟩
    · exact .inl ⟨slot, own, holds⟩
    · cases holds
      exact .inr ⟨groups, partner, mapped, listed, Pending.given_of_declared distinct declared⟩

/-- What a finished store holds for an attribute: what was given, else what the first alias was
given, else the rendered default. -/
structure Finishes (reg : Registry) (render : Value → Action SynthMemo Value) (pending : Pending)
    (groups : Entries (List String)) (store : Store) : Prop where
  given : ∀ name value, pending.declared.get? name = some value → store.get? name = some value
  agree : ∀ name value, pending.declared.get? name = some value → ∀ partner ∈ listed groups name,
    ∀ other, pending.declared.get? partner = some other → value.same other = true
  shared : ∀ name, pending.declared.get? name = none → ∀ value,
    (listed groups name).findSome? pending.declared.get? = some value → store.get? name = some value
  rendered : ∀ name, pending.declared.get? name = none →
    (listed groups name).findSome? pending.declared.get? = none → ∀ value,
    pending.slots.get? name = some (.default value) →
    ∃ result, store.get? name = some result ∧ Yields (Sound reg) (render value) (.ok result)

theorem finishWith_finishes {element : Element} {pending : Pending} {store : Store}
    (keeps : ∀ value, Keeps (Sound reg) (render value)) (distinct : pending.slots.names.Nodup)
    (h : Yields (Sound reg) (reg.finishWith render element pending) (.ok store)) :
    ∃ groups, reg.aliasMap pending.type = .ok groups ∧
      reg.Finishes render pending groups store := by
  obtain ⟨groups, slots, mapped, shared, _, stored⟩ := finishWith_store keeps distinct h
  refine ⟨groups, mapped, fun name value own => ?_, shared.agree, fun name unset value first => ?_,
    fun name unset alone value own => ?_⟩
  · have final := shared.final name
    unfold Pending.completed at final
    rw [own] at final
    rw [Pending.declared_get? distinct] at own
    obtain ⟨slot, found, given⟩ := Option.bind_eq_some_iff.1 own
    cases slot with
    | default _ => cases given
    | given value' =>
      cases given
      obtain ⟨value', held, same⟩ := stored name _ (final.trans found)
      rw [held, same]
  · have final := shared.final name
    unfold Pending.completed at final
    rw [unset, first] at final
    obtain ⟨value', held, same⟩ := stored name _ final
    rw [held, same]
  · have final := shared.final name
    unfold Pending.completed at final
    rw [unset, alone] at final
    exact stored name _ (final.trans own)

end Registry
end Annotations
