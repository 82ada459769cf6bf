import Annotations.Proofs.Merge.Conflicts

/-!
One annotation read in two ways, into a store of its own and as a view. A value that a view picks
equals one that the store has rendered, so where the store can be made the view conflicts only over
values whose difference the rendering takes away or over a nested store, which rendering leaves as it
is; and where all of the view can be read the store does not conflict.
-/
namespace Annotations

open Annotations.Action SynthMemo Registry
open Value (sameOption sameOption_congr sameOption_refl same_refl same_symm same_trans)

variable {reg : Registry} {e : Error} {element : Element} {render : Value → Action SynthMemo Value}
  {annot : Annot} {pending : Pending} {view : View} {attr : Attr} {name : String} {store : Store}
  {value rendered : Value}

/-- An annotation gives two attributes on a list different values, both different from their
defaults, that are rendered equally. -/
def Registry.ApartUnrendered (reg : Registry) (render : Value → Action SynthMemo Value)
    (annot : Annot) (decl : AnnotType) (group : List String) : Prop :=
  ∃ first ∈ decl.attrs, ∃ second ∈ decl.attrs, ∃ left right,
    first.name ∈ group ∧ second.name ∈ group ∧
    annot.value? first.name = some left ∧ annot.value? second.name = some right ∧
    sameOption first.default? (some left) = false ∧
    sameOption second.default? (some right) = false ∧ left.same right = false ∧
    ∃ shown shown', Yields (Sound reg) (render left) (.ok shown) ∧
      Yields (Sound reg) (render right) (.ok shown') ∧ shown.same shown' = true

/-- The value picked for an attribute holds a store that cannot be made into an annotation. -/
def View.PicksStore (reg : Registry) (view : View) (attr : Attr) (e : Error) : Prop :=
  ∃ value given shown values type, view.pick attr = .ok value ∧
    value.Holds (.store given shown values) ∧ attr.type.inmost = .annot type ∧
    Yields (Sound reg) (reg.materialize view.element (reg.nestingBound value)
      (.store ⟨given, shown, values⟩) type) (.error e)

namespace View

theorem isSet_some {default? : Option Value} :
    isSet (some value) default? = true ↔ sameOption default? (some value) = false := by
  simp [isSet, Value.sameOption_comm]

end View

/-- A slot holds a value as it stands where that is not set, and rendered where it is. -/
def Slot.Reads (I : SynthMemo → Prop) (render : Value → Action SynthMemo Value)
    (default? : Option Value) (value : Value) : Slot → Prop
  | .given rendered => View.isSet (some value) default? = true ∧ Yields I (render value) (.ok rendered)
  | .default value' => View.isSet (some value) default? = false ∧ value' = value

namespace Pending.From

variable (origin : pending.From (Sound reg) render annot view.type)
  (distinct : (view.type.attrs.map (·.name)).Nodup)
  (of : view.Of reg (.annot annot) annot.type)
  (found : view.type.attr? attr.name = some attr)

include origin distinct of found

/-- The slots of an alias group hold what a view of the annotation has for its members. -/
theorem reads (mem : name ∈ aliasGroup view.aliases attr.name) :
    ∃ value slot, view.raw name = some value ∧ pending.slots.get? name = some slot ∧
      slot.Reads (Sound reg) render attr.default? value := by
  obtain ⟨member, declared, equal⟩ := of.member found mem
  obtain ⟨memberMem, rfl⟩ := mem_of_attr? declared
  obtain ⟨slot, there⟩ := origin.filled member memberMem
  obtain ⟨other, otherMem, named, value, own, kind⟩ := origin.slot member.name slot there
  have same : other = member := by
    have found' := attr?_of_mem distinct otherMem
    rw [named, declared] at found'
    exact (Option.some.inj found').symm
  subst same
  refine ⟨value, slot, (of.raw_annot declared).trans own, there, ?_⟩
  rcases kind with ⟨isDefault, rfl⟩ | ⟨apart, rendered, rfl, made⟩
  · refine ⟨?_, rfl⟩
    rw [View.isSet_congr equal]
    by_contra set
    rw [View.isSet_some.1 (by simpa using set)] at isDefault
    cases isDefault
  · exact ⟨by rw [View.isSet_congr equal]; exact View.isSet_some.2 apart, made⟩

/-- A value given explicitly and different from the default is rendered. -/
theorem given_slot (given : annot.value? attr.name = some value)
    (apart : sameOption attr.default? (some value) = false) :
    ∃ rendered, pending.declared.get? attr.name = some rendered ∧
      Yields (Sound reg) (render value) (.ok rendered) := by
  obtain ⟨value', slot, raw, there, reads⟩ := origin.reads distinct of found (.head _)
  rw [of.raw_annot found, given] at raw
  cases raw
  cases slot with
  | given rendered =>
    refine ⟨rendered, ?_, reads.2⟩
    rw [Pending.declared_get? origin.distinct, there]
    rfl
  | default _ => cases (View.isSet_some.2 apart).symm.trans reads.1

/-- A value set for a member of an alias group is one that a view of the annotation has there, and
equals the value that is picked. -/
theorem given_raw (mem : name ∈ aliasGroup view.aliases attr.name)
    (given : pending.slots.get? name = some (.given rendered)) {picked : Value}
    (h : view.pick attr = .ok picked) :
    ∃ value, view.raw name = some value ∧ value.same picked = true ∧
      Yields (Sound reg) (render value) (.ok rendered) := by
  obtain ⟨value, slot, raw, there, reads⟩ := origin.reads distinct of found mem
  cases there.symm.trans given
  obtain ⟨set, made⟩ := reads
  have equal := (View.pick_means h).1 name mem
  rw [raw] at equal
  exact ⟨value, raw, equal set, made⟩

/-- A value set for a member of an alias group equals the value that is picked. -/
theorem given_same (mem : name ∈ aliasGroup view.aliases attr.name)
    (given : pending.slots.get? name = some (.given rendered)) {picked : Value}
    (h : view.pick attr = .ok picked) :
    ∃ value, value.same picked = true ∧ Yields (Sound reg) (render value) (.ok rendered) := by
  obtain ⟨value, _, equal, made⟩ := origin.given_raw distinct of found mem given h
  exact ⟨value, equal, made⟩

/-- The default of an alias group none of whose members is set equals the value that is picked. -/
theorem default_same (unset : ∀ name ∈ aliasGroup view.aliases attr.name, ∀ rendered,
      pending.slots.get? name ≠ some (.given rendered))
    (own : pending.slots.get? attr.name = some (.default value)) {picked : Value}
    (h : view.pick attr = .ok picked) : value.same picked = true := by
  have raw : ∀ name ∈ aliasGroup view.aliases attr.name,
      View.isSet (view.raw name) attr.default? = false := by
    intro name mem
    obtain ⟨value, slot, raw, there, reads⟩ := origin.reads distinct of found mem
    cases slot with
    | given rendered => exact absurd there (unset name mem rendered)
    | default _ => exact raw ▸ reads.1
  obtain ⟨value', slot, here, there, reads⟩ := origin.reads distinct of found (.head _)
  cases there.symm.trans own
  obtain ⟨notSet, rfl⟩ := reads
  have left : sameOption (some value) attr.default? = true := by simpa [View.isSet] using notSet
  exact (sameOption_congr left ((View.pick_means h).2 raw)).trans (sameOption_refl _)

end Pending.From

namespace Registry.Finishes

variable (finishes : reg.Finishes render pending view.aliases store)
  (origin : pending.From (Sound reg) render annot view.type)
  (distinct : (view.type.attrs.map (·.name)).Nodup)
  (of : view.Of reg (.annot annot) annot.type)
  (found : view.type.attr? attr.name = some attr)

include finishes origin distinct of found

/-- Where the store is made, no value is picked for a conflict only over a difference that the
rendering takes away. -/
theorem pick_conflict (matched : reg.PairsMatched) (conflict : e.isConflict = true)
    (h : view.pick attr = .error e) :
    reg.ApartUnrendered render annot view.type (aliasGroup view.aliases attr.name) := by
  obtain ⟨first, mem, second, mem', left, right, inGroup, inGroup', given, given', apart, apart',
    differ⟩ := View.pick_conflict of found conflict h
  obtain ⟨shown, declared, made⟩ :=
    origin.given_slot distinct of (attr?_of_mem distinct mem) given apart
  obtain ⟨shown', declared', made'⟩ :=
    origin.given_slot distinct of (attr?_of_mem distinct mem') given' apart'
  have names : first.name ≠ second.name := by
    intro same
    have values : left = right := by
      rw [same] at given
      exact Option.some.inj (given.symm.trans given')
    rw [values, same_refl] at differ
    cases differ
  obtain ⟨_, map⟩ := aliasMapOf_aliasMap of.aliases
  have alike : shown.same shown' = true := by
    rcases map.comparable_in_group matched inGroup inGroup' names with listed | listed
    · exact same_symm (finishes.agree _ _ declared' _ listed _ declared)
    · exact finishes.agree _ _ declared _ listed _ declared'
  exact ⟨first, mem, second, mem', left, right, inGroup, inGroup', given, given', apart, apart',
    differ, shown, shown', made, made', alike⟩

/-- Where the store is made, it holds for an attribute what was rendered for a member of its alias
group, and what is picked equals the value that a view of the annotation has there. -/
theorem held {picked : Value} (h : view.pick attr = .ok picked) :
    ∃ name ∈ aliasGroup view.aliases attr.name, ∃ value rendered, view.raw name = some value ∧
      value.same picked = true ∧ Yields (Sound reg) (render value) (.ok rendered) ∧
      store.get? attr.name = some rendered := by
  cases own : pending.declared.get? attr.name with
  | some rendered =>
    have given := Pending.given_of_declared origin.distinct own
    obtain ⟨value, raw, same, made⟩ := origin.given_raw distinct of found (.head _) given h
    exact ⟨_, .head _, value, rendered, raw, same, made, finishes.given _ _ own⟩
  | none =>
    cases first : (listed view.aliases attr.name).findSome? pending.declared.get? with
    | some rendered =>
      obtain ⟨partner, mem, theirs⟩ := List.exists_of_findSome?_eq_some first
      have given := Pending.given_of_declared origin.distinct theirs
      obtain ⟨value, raw, same, made⟩ := origin.given_raw distinct of found (.tail _ mem) given h
      exact ⟨_, .tail _ mem, value, rendered, raw, same, made, finishes.shared _ own _ first⟩
    | none =>
      obtain ⟨value, slot, raw, there, reads⟩ := origin.reads distinct of found (.head _)
      have unset : ∀ name ∈ aliasGroup view.aliases attr.name, ∀ rendered,
          pending.slots.get? name ≠ some (.given rendered) := by
        intro name mem rendered given
        have declared : pending.declared.get? name = none := by
          rcases List.mem_cons.1 mem with rfl | listed
          · exact own
          · exact List.findSome?_eq_none_iff.1 first name listed
        rw [Pending.declared_get? origin.distinct, given] at declared
        cases declared
      cases slot with
      | given rendered => exact absurd there (unset _ (.head _) rendered)
      | default fallback =>
        obtain ⟨_, rfl⟩ := reads
        obtain ⟨rendered, stored, made⟩ := finishes.rendered _ own first _ there
        exact ⟨_, .head _, _, rendered, raw,
          origin.default_same distinct of found unset there h, made, stored⟩

/-- Where the store is made, what is picked equals a value that was rendered for it. -/
theorem picked_rendered {picked : Value} (h : view.pick attr = .ok picked) :
    ∃ value rendered, value.same picked = true ∧ Yields (Sound reg) (render value) (.ok rendered) := by
  obtain ⟨_, _, value, rendered, _, same, made, _⟩ := finishes.held origin distinct of found h
  exact ⟨value, rendered, same, made⟩

end Registry.Finishes

/-- What is rendered as it is has every annotation that it holds made one with all attributes. -/
theorem Registry.render_raw_held {type : String} {values : Entries Value}
    (h : Yields (Sound reg) (reg.render element .raw value) (.ok rendered))
    (held : value.Holds (.annot type values)) :
    ∃ bound annot, Yields (Sound reg)
      (reg.materialize (some element) bound (.annot ⟨type, values⟩) type) (.ok annot) := by
  obtain ⟨made, h⟩ := Rendering.renderWith_held (reg.asked_keeps.renderNested _ element _) h held
  generalize reg.nestingBound value = bound at h
  cases bound with
  | zero => cases h.throw
  | succ bound =>
    obtain ⟨annot, first, _⟩ := h.bind_ok (reg.asked_keeps.materialize _ _ _ _)
    exact ⟨bound + 1, annot, first⟩

/-- A value cannot be rendered as it is for a conflict only where an annotation in it cannot be made
one with all attributes. -/
theorem Registry.render_raw_conflict (conflict : e.isConflict = true)
    (h : Yields (Sound reg) (reg.render element .raw value) (.error e)) :
    ∃ type values bound, value.Holds (.annot type values) ∧ Yields (Sound reg)
      (reg.materialize (some element) bound (.annot ⟨type, values⟩) type) (.error e) := by
  obtain ⟨type, values, held, h⟩ :=
    Rendering.renderWith_error (reg.asked_keeps.renderNested _ element _) h
  generalize reg.nestingBound value = bound at h
  cases bound with
  | zero =>
    cases h.throw
    cases conflict
  | succ bound =>
    rcases h.bind_error (reg.asked_keeps.materialize _ _ _ _) with failed | ⟨_, _, h⟩
    · exact ⟨type, values, bound + 1, held, failed⟩
    · cases h.pure

namespace View

/-- A view that can be read picks a value for each attribute and fits it. -/
theorem values_ok {values : Entries Value} (h : Yields (Sound reg) (view.values reg) (.ok values))
    (found : view.type.attr? attr.name = some attr) :
    ∃ picked fitted, view.pick attr = .ok picked ∧ Yields (Sound reg)
      (fit view.name (reg.materialize view.element (reg.nestingBound picked)) attr.name attr.type
        (wrap attr.type picked)) (.ok fitted) := by
  obtain ⟨pairs, _, each⟩ := valuesWith_yields
    (fun value => reg.asked_keeps.materialize view.element (reg.nestingBound value)) h
  obtain ⟨pair, _, _, read⟩ := partner_of_forall₂ each (mem_of_attr? found).1
  obtain ⟨picked, chosen, fitted⟩ := attrWith_ok found read
  exact ⟨picked, pair.2, chosen, fitted⟩

variable (conflict : e.isConflict = true)

include conflict

/-- What equals a value that was fitted is not rendered for a conflict. -/
theorem not_render_conflict {owner : String} {declared : AttrType} {picked fitted : Value}
    {element' : Option Element} {bound : Nat} (same : value.same picked = true)
    (h : Yields (Sound reg)
      (fit owner (reg.materialize element' bound) name declared (wrap declared picked))
      (.ok fitted)) :
    ¬ Yields (Sound reg) (reg.render element .raw value) (.error e) := by
  intro failed
  obtain ⟨type, values, bound', held, failed⟩ := render_raw_conflict conflict failed
  obtain ⟨values', held', equal⟩ := held.annot_same same
  obtain ⟨_, annot, _, stands, made⟩ :=
    fit_held (reg.asked_keeps.materialize _ _) h (wrap_holds held') .annot
  cases stands
  exact (materialize_calm _ _ _ _ _ equal.symm made failed).false conflict

variable (distinct : (view.type.attrs.map (·.name)).Nodup)
  (of : view.Of reg (.annot annot) annot.type)

include distinct of

/-- Where the store of an annotation alone is made, a view of it conflicts only over a difference
that the rendering takes away or over a nested store. -/
theorem attr_conflict (matched : reg.PairsMatched)
    (made : Yields (Sound reg) (reg.annotAttributes element .raw annot) (.ok store))
    (h : Yields (Sound reg) (view.attr reg name) (.error e)) :
    ∃ attr, view.type.attr? name = some attr ∧
      (reg.ApartUnrendered (reg.render element .raw) annot view.type
        (aliasGroup view.aliases attr.name) ∨ view.PicksStore reg attr e) := by
  have keeps := reg.asked_keeps.render element .raw
  obtain ⟨pending, retrieved, finished⟩ := made.bind_ok (reg.asked_keeps.retrieve _ _ _)
  obtain ⟨decl, known, origin⟩ := retrieveWith_from keeps retrieved
  cases of.type.symm.trans known
  obtain ⟨groups, mapped, finishes⟩ := finishWith_finishes keeps origin.distinct finished
  rw [origin.type] at mapped
  cases of.aliases.symm.trans mapped
  unfold View.attr attrWith at h
  split at h
  · cases h.throw
    cases conflict
  · rename_i attr found
    refine ⟨attr, found, ?_⟩
    obtain ⟨_, rfl⟩ := mem_of_attr? found
    rcases h.bind_error (reg.asked_keeps.lift _) with failed | ⟨picked, chosen, h⟩
    · exact .inl (finishes.pick_conflict origin distinct of found matched conflict failed.lift.symm)
    · have chosen := chosen.lift.symm
      obtain ⟨inner, source, type, held, stands, own, failed⟩ :=
        fit_conflict (reg.asked_keeps.materialize _ _) conflict h
      have held := holds_of_wrap stands held
      cases stands with
      | store _ => exact .inr ⟨picked, _, _, _, type, chosen, held, own, failed⟩
      | annot =>
        -- an equal annotation was rendered for the store
        obtain ⟨value, rendered, same, made⟩ :=
          finishes.picked_rendered origin distinct of found chosen
        obtain ⟨values', held', equal⟩ := held.annot_same (same_symm same)
        obtain ⟨bound, annot, first⟩ := render_raw_held made held'
        exact ((materialize_calm _ _ _ _ _ equal.symm first failed).false conflict).elim

/-- Where all of a view can be read, the attributes of the annotation are retrieved without a
conflict. -/
theorem retrieve_calm {values : Entries Value}
    (read : Yields (Sound reg) (view.values reg) (.ok values)) :
    ¬ Yields (Sound reg) (reg.retrieve element .raw annot) (.error e) := by
  intro failed
  have keeps := reg.asked_keeps.render element .raw
  rcases failed.bind_error (reg.asked_keeps.lift _) with failed | ⟨decl, known, failed⟩
  · exact (type_fault failed.lift.symm).false conflict
  cases of.type.symm.trans known.lift.symm
  rcases failed.bind_error (reg.asked_keeps.slotsOf keeps annot _ []) with failed | ⟨_, _, failed⟩
  · obtain ⟨attr, mem, ⟨_, rfl⟩ | ⟨value, own, apart, failed⟩⟩ := slotsOf_error keeps failed
    · cases conflict
    · have found := attr?_of_mem distinct mem
      obtain ⟨picked, _, chosen, fitted⟩ := values_ok read found
      have equal := (pick_means chosen).1 attr.name (.head _)
      rw [(of.raw_annot found).trans own] at equal
      exact not_render_conflict conflict (equal (isSet_some.2 apart)) fitted failed
  · cases failed.pure

/-- Where all of a view can be read, the retrieved attributes are finished without a conflict. -/
theorem finish_calm {values : Entries Value}
    (read : Yields (Sound reg) (view.values reg) (.ok values))
    (origin : pending.From (Sound reg) (reg.render element .raw) annot view.type) :
    ¬ Yields (Sound reg) (reg.finish element .raw pending) (.error e) := by
  intro failed
  have keeps := reg.asked_keeps.render element .raw
  obtain ⟨groups, mapped, failed⟩ := finishWith_conflict keeps origin.distinct conflict failed
  rw [origin.type] at mapped
  cases of.aliases.symm.trans mapped
  rcases failed with ⟨name, value, partner, other, mem, own, theirs, differ, _⟩ |
    ⟨name, value, own, alone, failed⟩
  · obtain ⟨attr, inside, rfl, _⟩ := origin.slot _ _ own
    have found := attr?_of_mem distinct inside
    obtain ⟨picked, _, chosen, _⟩ := values_ok read found
    obtain ⟨left, same, made⟩ := origin.given_same distinct of found (.head _) own chosen
    obtain ⟨right, same', made'⟩ := origin.given_same distinct of found (.tail _ mem) theirs chosen
    have alike := render_same _ _ _ _ (same_trans same (same_symm same')) made made'
    rw [alike] at differ
    cases differ
  · obtain ⟨attr, inside, rfl, _⟩ := origin.slot _ _ own
    have found := attr?_of_mem distinct inside
    obtain ⟨picked, _, chosen, fitted⟩ := values_ok read found
    refine not_render_conflict conflict
      (origin.default_same distinct of found (fun name mem rendered given => ?_) own chosen) fitted
      failed
    rcases List.mem_cons.1 mem with rfl | mem
    · cases own.symm.trans given
    · have declared := alone name mem
      rw [Pending.declared_get? origin.distinct, given] at declared
      cases declared

/-- Where all of a view can be read, the store of the annotation alone does not conflict. -/
theorem values_calm {values : Entries Value}
    (read : Yields (Sound reg) (view.values reg) (.ok values)) :
    ¬ Yields (Sound reg) (reg.annotAttributes element .raw annot) (.error e) := by
  intro failed
  rcases failed.bind_error (reg.asked_keeps.retrieve _ _ _) with failed | ⟨pending, made, failed⟩
  · exact retrieve_calm conflict distinct of read failed
  · obtain ⟨decl, known, origin⟩ :=
      retrieveWith_from (reg.asked_keeps.render element .raw) made
    cases of.type.symm.trans known
    exact finish_calm conflict distinct of read origin failed

end View
end Annotations
