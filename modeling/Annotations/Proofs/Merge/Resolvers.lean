import Annotations.Proofs.Merge.Conflicts
import Annotations.Proofs.Merge.Shows

/-!
Nested annotations made complete in two ways: as stores, whose values are rendered and then compared
with those of aliases, and as annotations, whose values are read through a view that compares first.
Over a coherent registry both take the same formed annotations, and the store shows the annotation.
-/
namespace Annotations

open Annotations.Action SynthMemo Registry
open Value (sameOption sameOption_congr same_refl same_symm same_trans same_annot_iff same_store_iff)

variable {reg : Registry} {rendering : Rendering} {annot annot' : Annot} {view view' : View}
  {attr : Attr} {name : String} {value picked : Value} {e : Error}

theorem Error.configuration_of_conflict (conflict : e.isConflict = true) :
    e.isConfiguration = true := by
  rw [isConfiguration, category_of_conflict conflict]
  rfl

namespace View

/-- What is picked of a source is picked, as an equal value, of an equal one. -/
theorem pick_ok_same {source source' : Source} {type : String} (of : view.Of reg source type)
    (of' : view'.Of reg source' type) (same : source.Same source') (h : view.pick attr = .ok picked) :
    ∃ picked', view'.pick attr = .ok picked' ∧ picked.same picked' = true := by
  obtain ⟨settled, went, found⟩ := pick_ok h
  rw [of.same_aliases of'] at went
  obtain ⟨settled', ended, alike⟩ : ∃ settled', view'.settle attr.default?
      (listed view'.aliases attr.name) (view'.raw attr.name) attr.name = .ok settled' ∧
        sameOption settled settled' = true :=
    settle_same (of.raw_same of' same) (of.raw_same of' same attr.name) went
  cases Value.sameOption_iff.1 alike with
  | none => exact ⟨picked, pick_of_settled ended found, same_refl picked⟩
  | some equal =>
    cases found
    exact ⟨_, pick_of_settled ended rfl, equal⟩

/-- Where a view has values for a whole alias group, no value is picked only for a conflict. -/
theorem pick_error_conflict (full : ∀ name ∈ aliasGroup view.aliases attr.name, view.raw name ≠ none)
    (h : view.pick attr = .error e) : e.isConflict = true := by
  rcases Outcome.bind_error h with failed | ⟨settled, went, h⟩
  · exact settle_conflict failed
  · obtain ⟨member, mem, rfl⟩ := settle_from rfl went
    cases own : view.raw member with
    | none => exact absurd own (full member mem)
    | some value =>
      rw [own] at h
      cases h

section

variable (coherent : reg.Coherent) (defaults : reg.DefaultsFormed) (formed : annot.toValue.Formed reg)
  (of : view.Of reg (.annot annot) annot.type) (found : view.type.attr? attr.name = some attr)

include formed of found

/-- A view of a formed annotation has a value for every member of an alias group. -/
theorem raw_full (mem : name ∈ aliasGroup view.aliases attr.name) : view.raw name ≠ none := by
  obtain ⟨member, declared, _⟩ := of.member found mem
  obtain ⟨memberMem, rfl⟩ := mem_of_attr? declared
  obtain ⟨decl, _, proper⟩ := formed.own
  cases of.type.symm.trans proper.known
  rw [of.raw_annot declared]
  exact proper.full member memberMem

include coherent defaults

/-- What a view of a formed annotation has for the members of an alias group is formed and conforms to
the type that they declare. -/
theorem raw_formed (mem : name ∈ aliasGroup view.aliases attr.name)
    (own : view.raw name = some value) : value.conformsTo attr.type = true ∧ value.Formed reg := by
  obtain ⟨member, declared, _⟩ := of.member found mem
  obtain ⟨memberMem, named⟩ := mem_of_attr? declared
  obtain ⟨decl, _, proper⟩ := formed.own
  cases of.type.symm.trans proper.known
  have types : member.type = attr.type := by
    rcases List.mem_cons.1 mem with rfl | listed
    · cases found.symm.trans declared
      rfl
    · exact (coherent.types _ _ _ _ _ _ _ of.type of.aliases listed found declared).symm
  rw [← types]
  rw [of.raw_annot declared, ← named] at own
  cases given : annot.value? member.name with
  | some value' =>
    rw [given] at own
    cases own
    exact ⟨proper.typed member memberMem value given, formed.given of.type memberMem given⟩
  | none =>
    rw [given, Option.none_or] at own
    exact defaults annot.type view.type member value of.type memberMem own

end

end View

/-- A value that a view has for a member of an attribute's alias group and that equals whatever is
picked for the attribute. -/
structure View.Settles (view : View) (attr : Attr) (name : String) (value : Value) : Prop where
  found : view.type.attr? attr.name = some attr
  mem : name ∈ aliasGroup view.aliases attr.name
  raw : view.raw name = some value
  equal : ∀ picked, view.pick attr = .ok picked → value.same picked = true

/-- What is picked of a formed annotation settles. -/
theorem View.pick_settles (formed : annot.toValue.Formed reg)
    (of : view.Of reg (.annot annot) annot.type) (found : view.type.attr? attr.name = some attr)
    (h : view.pick attr = .ok picked) : ∃ name, view.Settles attr name picked := by
  obtain ⟨settled, went, chosen⟩ := pick_ok h
  obtain ⟨member, mem, rfl⟩ := settle_from rfl went
  cases own : view.raw member with
  | none => exact absurd own (raw_full formed of found mem)
  | some value =>
    rw [own] at chosen
    cases chosen
    refine ⟨member, found, mem, own, fun other h' => ?_⟩
    cases h.symm.trans h'
    exact same_refl _

namespace Pending.From

variable {render : Value → Action SynthMemo Value} {pending : Pending} {rendered : Value}
  (origin : pending.From (Sound reg) render annot view.type)
  (distinct : (view.type.attrs.map (·.name)).Nodup)
  (of : view.Of reg (.annot annot) annot.type)
  (found : view.type.attr? attr.name = some attr)

include origin distinct of found

/-- What is given to a member of an alias group was rendered of a value that settles. -/
theorem settles_given (mem : name ∈ aliasGroup view.aliases attr.name)
    (given : pending.slots.get? name = some (.given rendered)) :
    ∃ value, view.Settles attr name value ∧ Yields (Sound reg) (render value) (.ok rendered) := by
  obtain ⟨value, slot, raw, there, reads⟩ := origin.reads distinct of found mem
  cases there.symm.trans given
  refine ⟨value, ⟨found, mem, raw, fun picked h => ?_⟩, reads.2⟩
  obtain ⟨value', raw', equal, _⟩ := origin.given_raw distinct of found mem given h
  cases raw.symm.trans raw'
  exact equal

/-- Where no member of an alias group is given a value, the default settles. -/
theorem settles_default (unset : ∀ name ∈ aliasGroup view.aliases attr.name, ∀ rendered,
      pending.slots.get? name ≠ some (.given rendered))
    (own : pending.slots.get? attr.name = some (.default value)) :
    view.Settles attr attr.name value := by
  obtain ⟨value', slot, raw, there, reads⟩ := origin.reads distinct of found (.head _)
  cases there.symm.trans own
  obtain ⟨_, rfl⟩ := reads
  exact ⟨found, .head _, raw, fun picked h => origin.default_same distinct of found unset own h⟩

end Pending.From

namespace Registry

variable {render : Value → Action SynthMemo Value} {element : Element} {pending : Pending}
  {store : Store}

/-- The store of an annotation by itself. -/
def storeWith (reg : Registry) (render : Value → Action SynthMemo Value) (element : Element)
    (annot : Annot) : Action SynthMemo Store := do
  reg.finishWith render element (← reg.retrieveWith render annot)

section

variable (keeps : ∀ value, Keeps (Sound reg) (render value))
  (distinct : (view.type.attrs.map (·.name)).Nodup)
  (of : view.Of reg (.annot annot) annot.type)

include keeps distinct of

omit distinct in
theorem storeWith_ok
    (h : Yields (Sound reg) (reg.storeWith render element annot) (.ok store)) :
    ∃ pending, pending.From (Sound reg) render annot view.type ∧
      Yields (Sound reg) (reg.finishWith render element pending) (.ok store) ∧
      reg.Finishes render pending view.aliases store := by
  obtain ⟨pending, made, h⟩ := h.bind_ok (reg.asked_keeps.retrieveWith keeps annot)
  obtain ⟨decl, known, origin⟩ := retrieveWith_from keeps made
  cases of.type.symm.trans known
  obtain ⟨groups, mapped, finishes⟩ := finishWith_finishes keeps origin.distinct h
  rw [origin.type] at mapped
  cases of.aliases.symm.trans mapped
  exact ⟨pending, origin, h, finishes⟩

omit distinct in
/-- The store of an annotation holds nothing that its type does not declare. -/
theorem finishWith_absent (origin : pending.From (Sound reg) render annot view.type)
    (h : Yields (Sound reg) (reg.finishWith render element pending) (.ok store))
    (undeclared : name ∉ view.type.attrs.map (·.name)) : store.get? name = none := by
  obtain ⟨groups, slots, mapped, shared, absent, _⟩ := finishWith_store keeps origin.distinct h
  refine absent name ?_
  cases final : slots.get? name with
  | none => rfl
  | some slot =>
    rw [shared.final] at final
    rcases Pending.of_completed final with own | ⟨_, listed, _⟩
    · obtain ⟨attr, mem, rfl, _⟩ := origin.slot name slot own
      exact absurd (List.mem_map_of_mem mem) undeclared
    · obtain ⟨decl, map⟩ := aliasMapOf_aliasMap mapped
      have known := map.known
      rw [origin.type] at known
      cases of.type.symm.trans known
      exact absurd (map.source_declared listed) undeclared

/-- The store of a formed annotation cannot be made where a value that settles cannot be rendered, or
where two such values of one alias group are rendered differently. -/
theorem storeWith_error (formed : annot.toValue.Formed reg)
    (h : Yields (Sound reg) (reg.storeWith render element annot) (.error e)) :
    (∃ attr name value, view.Settles attr name value ∧
      Yields (Sound reg) (render value) (.error e)) ∨
    (e.isConflict = true ∧ ∃ attr name name' value value' shown shown',
      view.Settles attr name value ∧ view.Settles attr name' value' ∧
      Yields (Sound reg) (render value) (.ok shown) ∧
      Yields (Sound reg) (render value') (.ok shown') ∧ shown.same shown' = false) := by
  rcases h.bind_error (reg.asked_keeps.retrieveWith keeps annot) with failed | ⟨pending, made, h⟩
  · rcases failed.bind_error (reg.asked_keeps.lift _) with failed | ⟨decl, known, failed⟩
    · cases of.type.symm.trans failed.lift.symm
    · cases of.type.symm.trans known.lift.symm
      rcases failed.bind_error (reg.asked_keeps.slotsOf keeps annot _ []) with failed | ⟨_, _, failed⟩
      · obtain ⟨attr, mem, ⟨absent, _⟩ | ⟨value, own, apart, failed⟩⟩ := slotsOf_error keeps failed
        · have found := attr?_of_mem distinct mem
          exact absurd ((of.raw_annot found).trans absent)
            (View.raw_full formed of found (.head _))
        · have found := attr?_of_mem distinct mem
          have raw := (of.raw_annot found).trans own
          refine .inl ⟨attr, attr.name, value, ⟨found, .head _, raw, fun picked h => ?_⟩, failed⟩
          have equal := (View.pick_means h).1 attr.name (.head _)
          rw [raw] at equal
          exact equal (View.isSet_some.2 apart)
      · cases failed.pure
  · obtain ⟨decl, known, origin⟩ := retrieveWith_from keeps made
    cases of.type.symm.trans known
    rcases finishWith_error keeps origin.distinct h with unmapped | ⟨groups, mapped, failed⟩
    · have failed := (unmapped.computes (reg.recallAliasMap_computes _)).symm
      rw [origin.type] at failed
      cases of.aliases.symm.trans failed
    · rw [origin.type] at mapped
      cases of.aliases.symm.trans mapped
      rcases failed with ⟨name, shown, partner, shown', mem, own, theirs, differ, rfl⟩ |
        ⟨name, value, own, alone, failed⟩
      · obtain ⟨attr, inside, rfl, _⟩ := origin.slot _ _ own
        have found := attr?_of_mem distinct inside
        obtain ⟨value, settles, made⟩ := origin.settles_given distinct of found (.head _) own
        obtain ⟨value', settles', made'⟩ :=
          origin.settles_given distinct of found (.tail _ mem) theirs
        exact .inr ⟨rfl, attr, _, _, value, value', shown, shown', settles, settles', made, made',
          differ⟩
      · obtain ⟨attr, inside, rfl, _⟩ := origin.slot _ _ own
        have found := attr?_of_mem distinct inside
        refine .inl ⟨attr, attr.name, value,
          origin.settles_default distinct of found (fun name mem rendered given => ?_) own, failed⟩
        rcases List.mem_cons.1 mem with rfl | mem
        · cases own.symm.trans given
        · have declared := alone name mem
          rw [Pending.declared_get? origin.distinct, given] at declared
          cases declared

end

/-- Formed values are rendered to show what equal ones are fitted to and, for a bound, what they are
rendered to as they are. -/
structure Presents (reg : Registry) (rendering : Rendering) (element : Element) (bound : Nat)
    (render : Value → Action SynthMemo Value) (make : Source → String → Action SynthMemo Annot) :
    Prop where
  keeps : ∀ value, Keeps (Sound reg) (render value)
  keeps' : ∀ source type, Keeps (Sound reg) (make source type)
  fit : ∀ (value value' : Value) (declared : AttrType) (owner name : String), value.Formed reg →
    value.conformsTo declared = true → value.same value' = true →
    rendering.Shows reg (render value) (View.fit owner make name declared value')
  raw : ∀ value : Value, value.Formed reg →
    rendering.Shows reg (render value) (reg.renderAt element .raw bound value)

namespace Presents

variable {make : Source → String → Action SynthMemo Annot} {bound : Nat} {values : Entries Value}
  {fitted : Value}
  (presents : reg.Presents rendering element bound render make)
  (coherent : reg.Coherent) (defaults : reg.DefaultsFormed) (formed : annot.toValue.Formed reg)
  (of : view.Of reg (.annot annot) annot.type)

include presents coherent defaults formed of

/-- Rendering a value that settles shows what is read where an equal value is picked. -/
theorem settles (settles : view.Settles attr name value) (alike : value.same picked = true)
    (owner : String) :
    rendering.Shows reg (render value)
      (View.fit owner make attr.name attr.type (View.wrap attr.type picked)) := by
  obtain ⟨conforms, formed⟩ :=
    View.raw_formed coherent defaults formed of settles.found settles.mem settles.raw
  rw [View.wrap_of_conforms
    (Value.conformsTo_of_same (fun _ _ _ => formed.flat) alike conforms)]
  exact presents.fit _ _ _ _ _ formed conforms alike

/-- A value that settles is not rendered for an error that lets a search go on. -/
theorem settles_error (settles : view.Settles attr name value)
    (h : Yields (Sound reg) (render value) (.error e)) : e.isConfiguration = true := by
  obtain ⟨_, _, ends, _⟩ :=
    (presents.settles coherent defaults formed of settles (same_refl value) "").error_left h
  exact ends

/-- Values that a formed annotation gives aliases are not rendered equally where they differ. -/
theorem not_apart (found : view.type.attr? attr.name = some attr) :
    ¬ reg.ApartUnrendered render annot view.type (aliasGroup view.aliases attr.name) := by
  rintro ⟨first, mem, second, mem', left, right, inGroup, inGroup', given, given', apart, apart',
    differ, shown, shown', made, made', alike⟩
  have distinct := coherent.distinct annot.type view.type of.type
  obtain ⟨decl, groups, proper⟩ := formed.own
  cases of.type.symm.trans proper.known
  cases of.aliases.symm.trans proper.mapped
  have filled {member : Attr} {value shown : Value} (mem : member ∈ view.type.attrs)
      (inGroup : member.name ∈ aliasGroup view.aliases attr.name)
      (given : annot.value? member.name = some value)
      (made : Yields (Sound reg) (render value) (.ok shown)) :
      ∃ rendered, Yields (Sound reg) (reg.renderAt element .raw bound value) (.ok rendered) ∧
        shown.same (rendering.dress rendered) = true ∧ rendered.Filled reg ∧
        rendered.Shaped attr.type.inmost := by
    have declared := attr?_of_mem distinct mem
    have raw : view.raw member.name = some value := by
      rw [of.raw_annot declared, given, Option.some_or]
    obtain ⟨conforms, formed⟩ := View.raw_formed coherent defaults formed of found inGroup raw
    obtain ⟨rendered, plain, shows⟩ := (presents.raw value formed).ok_left made
    obtain ⟨filled, fits⟩ := renderAt_filled coherent (fun _ _ _ => formed.flat) plain
    exact ⟨rendered, plain, shows, filled, attr.type, rfl, fits attr.type conforms⟩
  obtain ⟨one, plain, shows, filled₁, shaped₁⟩ := filled mem inGroup given made
  obtain ⟨two, plain', shows', filled₂, shaped₂⟩ := filled mem' inGroup' given' made'
  refine proper.apart element bound attr.name ⟨first, mem, second, mem', left, right, inGroup, inGroup',
    given, given', apart, apart', differ, one, two, plain, plain', ?_⟩
  exact Rendering.same_of_dress filled₁ filled₂ shaped₁ shaped₂
    (same_trans (same_symm shows) (same_trans alike shows'))

variable (of' : view'.Of reg (.annot annot') annot.type)
  (same : Source.Same (.annot annot) (.annot annot'))

include of' same

/-- Where a view of an equal annotation reads an attribute, what it reads is shown by every value that
settles. -/
theorem read_shows (found : view.type.attr? attr.name = some attr)
    (read : Yields (Sound reg) (view'.attrWith (fun _ => make) attr.name) (.ok fitted)) :
    ∃ picked g, view.pick attr = .ok picked ∧ Yields (Sound reg) g (.ok fitted) ∧
      ∀ name value, view.Settles attr name value → rendering.Shows reg (render value) g := by
  obtain ⟨picked', chosen', fits⟩ := View.attrWith_ok (of.same_type of' ▸ found) read
  obtain ⟨picked, chosen, alike⟩ := View.pick_ok_same of' of same.symm chosen'
  refine ⟨picked, _, chosen, fits, fun name value settles => ?_⟩
  exact presents.settles coherent defaults formed of settles
    (same_trans (settles.equal picked chosen) (same_symm alike)) view'.name

/-- What is made complete either way shows the other. -/
theorem both_ok (h : Yields (Sound reg) (reg.storeWith render element annot) (.ok store))
    (h' : Yields (Sound reg) (view'.valuesWith fun _ => make) (.ok values)) (name : String) :
    sameOption (store.get? name) ((values.get? name).map rendering.dress) = true := by
  have distinct := coherent.distinct annot.type view.type of.type
  obtain ⟨pending, origin, finished, finishes⟩ := storeWith_ok presents.keeps of h
  obtain ⟨full, closed⟩ := View.valuesWith_get? (of.same_type of' ▸ distinct)
    (fun _ => presents.keeps') h'
  rw [← of.same_type of'] at full closed
  by_cases declared : name ∈ view.type.attrs.map (·.name)
  · obtain ⟨attr, mem, rfl⟩ := List.mem_map.1 declared
    have found := attr?_of_mem distinct mem
    obtain ⟨fitted, own, read⟩ := full attr mem
    obtain ⟨picked, g, chosen, yields, shows⟩ :=
      presents.read_shows coherent defaults formed of of' same found read
    obtain ⟨name, inGroup, value, shown, raw, alike, made, stored⟩ :=
      finishes.held origin distinct of found chosen
    have settles : view.Settles attr name value := ⟨found, inGroup, raw, fun picked' h => by
      cases chosen.symm.trans h
      exact alike⟩
    rw [stored, own]
    exact (shows name value settles).ok made yields
  · rw [closed name declared, finishWith_absent presents.keeps of origin finished declared]
    rfl

/-- Where the store is made, so is the annotation. -/
theorem not_ok_error (h : Yields (Sound reg) (reg.storeWith render element annot) (.ok store)) :
    ¬ Yields (Sound reg) (view'.valuesWith fun _ => make) (.error e) := by
  intro failed
  have distinct := coherent.distinct annot.type view.type of.type
  obtain ⟨pending, origin, _, finishes⟩ := storeWith_ok presents.keeps of h
  obtain ⟨attr, mem, failed⟩ := View.valuesWith_error (fun _ => presents.keeps') failed
  rw [← of.same_type of'] at mem
  have found := attr?_of_mem distinct mem
  rcases View.attrWith_error (of.same_type of' ▸ found) failed with refused | ⟨picked', chosen', failed⟩
  · cases chosen : view.pick attr with
    | ok picked =>
      obtain ⟨_, chosen', _⟩ := View.pick_ok_same of of' same chosen
      cases chosen'.symm.trans refused
    | error e =>
      exact presents.not_apart coherent defaults formed of found
        (finishes.pick_conflict origin distinct of found (coherent.pairs.matched coherent.distinct)
          (View.pick_error_conflict (fun _ => View.raw_full formed of found) chosen) chosen)
  · obtain ⟨picked, chosen, alike⟩ := View.pick_ok_same of' of same.symm chosen'
    obtain ⟨name, inGroup, value, shown, raw, equal, made, _⟩ :=
      finishes.held origin distinct of found chosen
    have settles : view.Settles attr name value := ⟨found, inGroup, raw, fun picked' h => by
      cases chosen.symm.trans h
      exact equal⟩
    exact (presents.settles coherent defaults formed of settles (same_trans equal (same_symm alike))
      view'.name).not_ok_error made failed

/-- Where the annotation is made, so is the store. -/
theorem not_error_ok (h : Yields (Sound reg) (reg.storeWith render element annot) (.error e)) :
    ¬ Yields (Sound reg) (view'.valuesWith fun _ => make) (.ok values) := by
  intro made
  have distinct := coherent.distinct annot.type view.type of.type
  obtain ⟨full, _⟩ := View.valuesWith_get? (of.same_type of' ▸ distinct)
    (fun _ => presents.keeps') made
  rw [← of.same_type of'] at full
  have reads {attr : Attr} (found : view.type.attr? attr.name = some attr) :
      ∃ fitted g, Yields (Sound reg) g (.ok fitted) ∧
        ∀ name value, view.Settles attr name value → rendering.Shows reg (render value) g := by
    obtain ⟨fitted, _, read⟩ := full attr (mem_of_attr? found).1
    obtain ⟨_, g, _, yields, shows⟩ :=
      presents.read_shows coherent defaults formed of of' same found read
    exact ⟨fitted, g, yields, shows⟩
  rcases storeWith_error presents.keeps distinct of formed h with
    ⟨attr, name, value, settles, failed⟩ |
    ⟨_, attr, name, name', value, value', shown, shown', settles, settles', first, second, differ⟩
  · obtain ⟨fitted, g, yields, shows⟩ := reads settles.found
    exact (shows name value settles).not_error_ok failed yields
  · obtain ⟨fitted, g, yields, shows⟩ := reads settles.found
    have alike := same_trans ((shows name value settles).ok first yields)
      (same_symm ((shows name' value' settles').ok second yields))
    cases alike.symm.trans differ

omit of' same in
/-- The store of a formed annotation is refused only for an error that ends a search. -/
theorem storeWith_ends (h : Yields (Sound reg) (reg.storeWith render element annot) (.error e)) :
    e.isConfiguration = true := by
  have distinct := coherent.distinct annot.type view.type of.type
  rcases storeWith_error presents.keeps distinct of formed h with
    ⟨attr, name, value, settles, failed⟩ | ⟨conflict, _⟩
  · exact presents.settles_error coherent defaults formed of settles failed
  · exact Error.configuration_of_conflict conflict

/-- A view of a formed annotation, or of one equal to it, refuses it only for an error that ends a
search. -/
theorem valuesWith_ends (h : Yields (Sound reg) (view'.valuesWith fun _ => make) (.error e)) :
    e.isConfiguration = true := by
  have distinct := coherent.distinct annot.type view.type of.type
  obtain ⟨attr, mem, failed⟩ := View.valuesWith_error (fun _ => presents.keeps') h
  rw [← of.same_type of'] at mem
  have found := attr?_of_mem distinct mem
  rcases View.attrWith_error (of.same_type of' ▸ found) failed with refused | ⟨picked', chosen', failed⟩
  · refine Error.configuration_of_conflict (View.pick_error_conflict (fun name mem absent => ?_) refused)
    rw [← of.same_aliases of'] at mem
    have alike := of.raw_same of' same name
    cases own : view.raw name with
    | none => exact View.raw_full formed of found mem own
    | some value =>
      rw [own, absent] at alike
      cases alike
  · obtain ⟨picked, chosen, alike⟩ := View.pick_ok_same of' of same.symm chosen'
    obtain ⟨name, settles⟩ := View.pick_settles formed of found chosen
    obtain ⟨_, _, _, ends⟩ := (presents.settles coherent defaults formed of settles (same_symm alike)
      view'.name).error_right failed
    exact ends

end Presents
end Registry
end Annotations
