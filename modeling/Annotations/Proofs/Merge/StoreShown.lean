import Annotations.Proofs.Merge.PendingShown

/-!
The last step of two merges side by side: where what is pending shows other pending attributes, alias
groups are completed alike, over the same conflicts, and the stores show each other.
-/
namespace Annotations

open Annotations.Action SynthMemo Registry
open Value (sameOption same_refl)

variable {reg : Registry} {rendering : Rendering} {element : Element} {type name : String}
  {pending pending' : Pending} {store store' : Store} {value other : Value} {e : Error}

/-- A store that holds what a rendering shows of another one. -/
def Store.Shows (rendering : Rendering) (store store' : Store) : Prop :=
  ∀ name, sameOption (store.get? name) ((store'.get? name).map rendering.dress) = true

theorem Pending.declared_of_given (distinct : pending.slots.names.Nodup)
    (own : pending.slots.get? name = some (.given value)) :
    pending.declared.get? name = some value := by
  rw [declared_get? distinct, own]
  rfl

/-- Pending attributes of one type with one alias map, of which the same are given values, aliases are
given equal values at the same places, and the same defaults can be rendered. -/
structure Registry.Balanced (reg : Registry) (render render' : Value → Action SynthMemo Value)
    (pending pending' : Pending) : Prop where
  typed : pending.type = pending'.type
  unset : ∀ name, pending.declared.get? name = none ↔ pending'.declared.get? name = none
  agree : ∀ groups, reg.aliasMap pending.type = .ok groups → ∀ name, ∀ partner ∈ listed groups name,
    ∀ shown shown' value other, pending.declared.get? name = some shown →
      pending.declared.get? partner = some shown' → pending'.declared.get? name = some value →
      pending'.declared.get? partner = some other →
      (shown.same shown' = true ↔ value.same other = true)
  default : ∀ name value, pending.slots.get? name = some (.default value) ↔
    pending'.slots.get? name = some (.default value)
  rendered : ∀ name value, pending.slots.get? name = some (.default value) → ∀ outcome outcome',
    Yields (Sound reg) (render value) outcome → Yields (Sound reg) (render' value) outcome' →
    outcome.isOk = outcome'.isOk

namespace Registry.Balanced

variable {render render' : Value → Action SynthMemo Value} {element' : Element}

theorem symm (h : reg.Balanced render render' pending pending') :
    reg.Balanced render' render pending' pending where
  typed := h.typed.symm
  unset name := (h.unset name).symm
  agree groups mapped name partner mem value other shown shown' own theirs given given' :=
    (h.agree groups (h.typed ▸ mapped) name partner mem shown shown' value other given given' own
      theirs).symm
  default name value := (h.default name value).symm
  rendered name value own outcome outcome' made made' :=
    (h.rendered name value ((h.default name value).2 own) outcome' outcome made' made).symm

/-- Where one of them can be finished, so can the other. -/
theorem not_error (h : reg.Balanced render render' pending pending')
    (keeps : ∀ value, Keeps (Sound reg) (render value))
    (keeps' : ∀ value, Keeps (Sound reg) (render' value))
    (distinct : pending.slots.names.Nodup) (distinct' : pending'.slots.names.Nodup)
    (made : Yields (Sound reg) (reg.finishWith render element pending) (.ok store)) :
    ¬ Yields (Sound reg) (reg.finishWith render' element' pending') (.error e) := by
  intro failed
  have given {name : String} {value : Value} (own : pending'.declared.get? name = some value) :
      ∃ shown, pending.declared.get? name = some shown := by
    refine Option.ne_none_iff_exists'.1 fun none => ?_
    cases own.symm.trans ((h.unset name).1 none)
  obtain ⟨groups, mapped, finishes⟩ := finishWith_finishes keeps distinct made
  rcases finishWith_error keeps' distinct' failed with unmapped | ⟨groups', mapped', failed⟩
  · have failed := (unmapped.computes (reg.recallAliasMap_computes _)).symm
    rw [h.typed] at mapped
    cases mapped.symm.trans failed
  rw [← h.typed] at mapped'
  cases mapped.symm.trans mapped'
  rcases failed with ⟨name, value, partner, other, mem, own, theirs, differ, _⟩ |
    ⟨name, value, own, alone, failed⟩
  · have own := Pending.declared_of_given distinct' own
    have theirs := Pending.declared_of_given distinct' theirs
    obtain ⟨shown, here⟩ := given own
    obtain ⟨shown', there⟩ := given theirs
    have alike := finishes.agree name shown here partner mem shown' there
    have same := (h.agree groups mapped name partner mem _ _ _ _ here there own theirs).1 alike
    cases same.symm.trans differ
  · have default := (h.default name value).2 own
    have unset : pending.declared.get? name = none := by
      rw [Pending.declared_get? distinct, default]
      rfl
    obtain ⟨shown, _, made⟩ := finishes.rendered name unset
      (List.findSome?_eq_none_iff.2 fun partner mem => (h.unset partner).2 (alone partner mem))
      value default
    cases h.rendered name value default _ _ made failed

end Registry.Balanced

namespace Pending.Shows

section

variable (h : pending.Shows reg rendering type pending')

include h

theorem declared (name : String) :
    Option.Rel (fun shown value => Slot.Shows reg rendering type name (.given shown) (.given value))
      (pending.declared.get? name) (pending'.declared.get? name) := by
  rw [Pending.declared_get? h.distinct, Pending.declared_get? h.distinct']
  have here := h.slots name
  generalize pending.slots.get? name = left at here
  generalize pending'.slots.get? name = right at here
  cases here with
  | none => exact .none
  | some own =>
    cases own with
    | given same filled fits => exact .some (.given same filled fits)
    | default formed => exact .none

theorem undeclared_iff (name : String) :
    pending.declared.get? name = none ↔ pending'.declared.get? name = none := by
  have here := h.declared name
  generalize pending.declared.get? name = left at here
  generalize pending'.declared.get? name = right at here
  cases here <;> simp

theorem given {shown : Value} (own : pending.declared.get? name = some shown)
    (own' : pending'.declared.get? name = some value) :
    Slot.Shows reg rendering type name (.given shown) (.given value) := by
  have here := h.declared name
  rw [own, own'] at here
  cases here with
  | some shows => exact shows

theorem default_iff : pending.slots.get? name = some (.default value) ↔
    pending'.slots.get? name = some (.default value) := by
  have here := h.slots name
  generalize pending.slots.get? name = left at here
  generalize pending'.slots.get? name = right at here
  cases here with
  | none => simp
  | some shows => cases shows <;> simp

theorem default_formed (own : pending'.slots.get? name = some (.default value)) :
    value.Formed reg := by
  have here := h.slots name
  rw [h.default_iff.2 own, own] at here
  cases here with
  | some shows =>
    cases shows with
    | default formed => exact formed

/-- Alias groups are completed with slots that show each other. -/
theorem completed (partners : List String) (name : String) :
    Option.Rel (fun slot slot' => ∃ origin, Slot.Shows reg rendering type origin slot slot')
      (Pending.completed pending.declared partners pending.slots name)
      (Pending.completed pending'.declared partners pending'.slots name) := by
  have own : Option.Rel (fun slot slot' => ∃ origin, Slot.Shows reg rendering type origin slot slot')
      (pending.slots.get? name) (pending'.slots.get? name) := by
    have here := h.slots name
    generalize pending.slots.get? name = left at here
    generalize pending'.slots.get? name = right at here
    cases here with
    | none => exact .none
    | some shows => exact .some ⟨name, shows⟩
  have first : Option.Rel (fun shown value => ∃ origin,
      Slot.Shows reg rendering type origin (.given shown) (.given value))
      (partners.findSome? pending.declared.get?) (partners.findSome? pending'.declared.get?) := by
    induction partners with
    | nil => exact .none
    | cons partner rest ih =>
      rw [List.findSome?_cons, List.findSome?_cons]
      have here := h.declared partner
      generalize pending.declared.get? partner = left at here
      generalize pending'.declared.get? partner = right at here
      cases here with
      | none => exact ih
      | some shows => exact .some ⟨partner, shows⟩
  unfold Pending.completed
  have here := h.declared name
  generalize pending.declared.get? name = left at here
  generalize pending'.declared.get? name = right at here
  cases here with
  | some _ => exact own
  | none =>
    generalize partners.findSome? pending.declared.get? = left at first
    generalize partners.findSome? pending'.declared.get? = right at first
    cases first with
    | none => exact own
    | some shows => exact .some shows

end

variable (coherent : reg.Coherent)

include coherent

/-- What an attribute and its alias were given is equal where it is shown equally. -/
theorem agree_iff {groups : Entries (List String)} (mapped : reg.aliasMap type = .ok groups)
    {partner : String} (mem : partner ∈ listed groups name) {shown shown' : Value}
    (own : Slot.Shows reg rendering type name (.given shown) (.given value))
    (theirs : Slot.Shows reg rendering type partner (.given shown') (.given other)) :
    shown.same shown' = true ↔ value.same other = true := by
  obtain ⟨decl, map⟩ := aliasMapOf_aliasMap mapped
  obtain ⟨_, attr, attr', found, found', _⟩ := map.partner mem
  cases own with
  | given same filled fits =>
    cases theirs with
    | given same' filled' fits' =>
      have aliased : reg.Aliased type name := ⟨groups, partner, mapped, .inl mem⟩
      have aliased' : reg.Aliased type partner := ⟨groups, name, mapped, .inr mem⟩
      have shaped := fits aliased decl attr map.known found
      have shaped' := fits' aliased' decl attr' map.known found'
      rw [← coherent.types type decl groups name partner attr attr' map.known mapped mem found found']
        at shaped'
      constructor
      · exact fun alike => Rendering.same_of_dress (filled aliased) (filled' aliased')
          shaped shaped'
          (Value.same_trans (Value.same_symm same) (Value.same_trans alike same'))
      · exact fun alike => Value.same_trans same
          (Value.same_trans (Rendering.dress_same alike) (Value.same_symm same'))

variable (defaults : reg.DefaultsFormed) (h : pending.Shows reg rendering type pending')

include defaults h

theorem finish_ok
    (made : Yields (Sound reg) (reg.finish element rendering pending) (.ok store))
    (made' : Yields (Sound reg) (reg.finish element .raw pending') (.ok store')) :
    store.Shows rendering store' := by
  obtain ⟨groups, slots, mapped, shared, absent, stored⟩ :=
    finishWith_store (reg.asked_keeps.render element rendering) h.distinct made
  obtain ⟨groups', slots', mapped', shared', absent', stored'⟩ :=
    finishWith_store (reg.asked_keeps.render element .raw) h.distinct' made'
  rw [h.typed] at mapped
  rw [h.typed'] at mapped'
  cases mapped.symm.trans mapped'
  intro name
  have here := h.completed (listed groups name) name
  rw [← shared.final, ← shared'.final] at here
  cases left : slots.get? name with
  | none =>
    rw [left] at here
    generalize right : slots'.get? name = slot' at here
    cases here
    rw [absent name left, absent' name right]
    rfl
  | some slot =>
    rw [left] at here
    generalize right : slots'.get? name = slot' at here
    cases here with
    | some shows =>
      obtain ⟨_, shows⟩ := shows
      obtain ⟨shown, found, holds⟩ := stored name slot left
      obtain ⟨value, found', holds'⟩ := stored' name _ right
      rw [found, found']
      cases shows with
      | given same _ _ =>
        cases holds
        cases holds'
        exact same
      | default formed => exact (render_shows coherent defaults formed).ok holds holds'

theorem balanced (element : Element) :
    reg.Balanced (reg.render element rendering) (reg.render element .raw) pending pending' where
  typed := h.typed.trans h.typed'.symm
  unset := h.undeclared_iff
  agree groups mapped name partner mem shown shown' value other own theirs own' theirs' :=
    agree_iff coherent (h.typed ▸ mapped) mem (h.given own own') (h.given theirs theirs')
  default _ _ := h.default_iff
  rendered name value own outcome outcome' made made' := by
    have formed := h.default_formed (h.default_iff.1 own)
    cases (render_shows coherent defaults formed).meet made made' with
    | ok _ => rfl
    | error _ => rfl

end Pending.Shows

/-- Pending attributes with formed defaults cannot be finished where there is no alias map of their
type, or else for an error that ends a search. -/
theorem Registry.finish_ends (coherent : reg.Coherent) (defaults : reg.DefaultsFormed)
    (distinct : pending.slots.names.Nodup)
    (formed : ∀ name value, pending.slots.get? name = some (.default value) → value.Formed reg)
    (failed : Yields (Sound reg) (reg.finish element rendering pending) (.error e)) :
    reg.aliasMap pending.type = .error e ∨
      (∃ groups, reg.aliasMap pending.type = .ok groups) ∧ e.isConfiguration = true := by
  rcases finishWith_error (reg.asked_keeps.render element rendering) distinct failed with
    unmapped | ⟨groups, mapped, ⟨_, _, _, _, _, _, _, _, rfl⟩ | ⟨name, value, own, _, failed⟩⟩
  · exact .inl (unmapped.computes (reg.recallAliasMap_computes _)).symm
  · exact .inr ⟨⟨groups, mapped⟩, rfl⟩
  · obtain ⟨_, _, ends, _⟩ := (render_shows coherent defaults (formed name value own)).error_left failed
    exact .inr ⟨⟨groups, mapped⟩, ends⟩

/-- What shows other pending attributes is finished in step with them, with a store that shows theirs. -/
theorem Registry.finish_shows (coherent : reg.Coherent) (defaults : reg.DefaultsFormed)
    (h : pending.Shows reg rendering type pending') :
    reg.InStep (Store.Shows rendering) (reg.finish element rendering pending)
      (reg.finish element .raw pending') := by
  have balanced := h.balanced coherent defaults element
  have keeps := reg.asked_keeps.render element rendering
  have keeps' := reg.asked_keeps.render element .raw
  refine .of_yields (reg.asked_keeps.finish element rendering pending)
    (reg.asked_keeps.finish element .raw pending') fun outcome outcome' left right => ?_
  cases outcome with
  | ok store =>
    cases outcome' with
    | ok store' => exact .ok (h.finish_ok coherent defaults left right)
    | error e => exact absurd right (balanced.not_error keeps keeps' h.distinct h.distinct' left)
  | error e =>
    cases outcome' with
    | ok store' =>
      exact absurd left (balanced.symm.not_error keeps' keeps h.distinct' h.distinct right)
    | error e' =>
      have ends := finish_ends coherent defaults h.distinct
        (fun _ _ own => h.default_formed (h.default_iff.1 own)) left
      have ends' := finish_ends coherent defaults h.distinct' (fun _ _ => h.default_formed) right
      rw [h.typed] at ends
      rw [h.typed'] at ends'
      refine .error ?_
      rcases ends with unmapped | ⟨⟨_, mapped⟩, config⟩
      · rcases ends' with unmapped' | ⟨⟨_, mapped'⟩, _⟩
        · cases unmapped.symm.trans unmapped'
          rfl
        · cases unmapped.symm.trans mapped'
      · rcases ends' with unmapped' | ⟨_, config'⟩
        · cases mapped.symm.trans unmapped'
        · exact config.trans config'.symm

end Annotations
