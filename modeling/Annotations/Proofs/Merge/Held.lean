import Annotations.Proofs.Alias.Faults
import Annotations.Proofs.Merge.Congruence

/-!
What a value holds: itself or, for an array, what its items hold. Fitting a value to a declared type
and rendering it come by each annotation that it holds, and fail with a conflict only over an
annotation, or a store that stands for one, that it holds. Where a source is read, an equal one is
never refused for a conflict.
-/
namespace Annotations

open Annotations.Action SynthMemo Registry
open Value (sameOption_symm same_symm same_annot_iff same_store_iff same_array_iff)

variable {reg : Registry} {e : Error}

namespace Value

/-- A value is held by itself and by every array that has an item which holds it. -/
inductive Holds : Value → Value → Prop
  | here {value : Value} : Holds value value
  | item {items : List Value} {item inner : Value} : item ∈ items → Holds item inner →
    Holds (.array items) inner

variable {value value' inner : Value} {type : String} {source : Source}

/-- Equal values hold equal ones. -/
theorem Holds.same (h : value.Holds inner) (same : value.same value' = true) :
    ∃ inner', value'.Holds inner' ∧ inner.same inner' = true := by
  induction h generalizing value' with
  | here => exact ⟨value', .here, same⟩
  | item mem _ ih =>
    cases value' with
    | array items' =>
      obtain ⟨other, mem', alike⟩ := partner_of_forall₂ (same_array_iff.1 same) mem
      obtain ⟨inner', held, equal⟩ := ih alike
      exact ⟨inner', .item mem' held, equal⟩
    | _ => cases same

/-- What equals a value that stands for an annotation stands for one as well. -/
theorem Stands.same (h : value.Stands type source) (same : value.same value' = true) :
    ∃ type' source', value'.Stands type' source' ∧ source.Same source' := by
  cases h with
  | annot =>
    cases value' with
    | annot type' values' =>
      obtain ⟨rfl, all⟩ := same_annot_iff.1 same
      exact ⟨_, _, .annot, rfl, all⟩
    | _ => cases same
  | store _ =>
    cases value' with
    | store given shown values' =>
      refine ⟨given.getD "", _, .store ?_, same_store_iff.1 same⟩
      cases given <;> simp
    | _ => cases same

/-- What equals a value that holds an annotation holds an equal annotation of the same type. -/
theorem Holds.annot_same {values : Entries Value} (h : value.Holds (.annot type values))
    (same : value.same value' = true) : ∃ values', value'.Holds (.annot type values') ∧
      Source.Same (.annot ⟨type, values⟩) (.annot ⟨type, values'⟩) := by
  obtain ⟨inner, held, alike⟩ := h.same same
  cases inner with
  | annot type' values' =>
    obtain ⟨rfl, all⟩ := same_annot_iff.1 alike
    exact ⟨values', held, rfl, all⟩
  | _ => cases alike

end Value

theorem Source.Same.symm {source source' : Source} (h : source.Same source') :
    source'.Same source := by
  match source, source', h with
  | .annot a, .annot b, ⟨types, values⟩ =>
    exact ⟨types.symm, fun name => sameOption_symm (values name)⟩
  | .store a, .store b, values => exact fun name => sameOption_symm (values name)

/-- What the arrays of a declared type hold at last. -/
def AttrType.inmost : AttrType → AttrType
  | .array element => element.inmost
  | type => type

theorem Registry.viewAnnot_faults (annot : Annot) (element : Option Element) :
    Raises Error.IsDeclared (reg.viewAnnot annot element) := by
  refine .bind (recalls_faults.typed reg annot.type) fun decl => ?_
  refine .bind (isSynthesizable_faults annot.type) fun answer => ?_
  cases answer with
  | true => exact .bind (recalls_faults.aliasMap reg annot.type) fun aliases => .pure _
  | false => exact .pure _

theorem Registry.viewStore_faults (store : Store) (name : String) (element : Option Element) :
    Raises Error.IsDeclared (reg.viewStore store name element) :=
  .bind (recalls_faults.typed reg name) fun _ =>
    .bind (recalls_faults.aliasMap reg name) fun _ => .pure _

theorem Registry.viewSource_faults (element : Option Element) (source : Source) (type : String) :
    Raises Error.IsDeclared (reg.viewSource element source type) := by
  cases source with
  | annot annot => exact viewAnnot_faults annot element
  | store store => exact viewStore_faults store type element

namespace View

variable {value inner : Value} {declared : AttrType} {type owner name : String} {source : Source}

theorem wrap_holds (h : value.Holds inner) : (wrap declared value).Holds inner := by
  unfold wrap
  split
  · exact h
  · exact .item (.head _) h
  · exact h

theorem holds_of_wrap (stands : inner.Stands type source)
    (h : (wrap declared value).Holds inner) : value.Holds inner := by
  unfold wrap at h
  split at h
  · exact h
  · cases h with
    | here => cases stands
    | item mem held =>
      rw [List.mem_singleton.1 mem] at held
      exact held
  · exact h

section

variable {nested : Source → String → Action SynthMemo Annot}
  (keeps : ∀ source type, Keeps (Sound reg) (nested source type))

include keeps

theorem fit_error_of_items (deep : e.category ≠ .lookup)
    (items : ∀ element, declared = .array element → ∀ item,
      Yields (Sound reg) (fit owner nested name element item) (.error e) →
        ∃ inner source type, item.Holds inner ∧ inner.Stands type source ∧
          element.inmost = .annot type ∧ Yields (Sound reg) (nested source type) (.error e))
    (h : Yields (Sound reg) (fit owner nested name declared value) (.error e)) :
    ∃ inner source type, value.Holds inner ∧ inner.Stands type source ∧
      declared.inmost = .annot type ∧ Yields (Sound reg) (nested source type) (.error e) := by
  revert h
  fun_cases fit owner nested name declared value with
  | case1 element given =>
    intro h
    have each := fun item => reg.asked_keeps.fit keeps owner name element item
    rcases h.bind_error (reg.asked_keeps.mapM each given) with failed | ⟨_, _, h⟩
    · obtain ⟨item, mem, failed⟩ := failed.mapM_error each
      obtain ⟨inner, source, type, held, found⟩ := items element rfl item failed
      exact ⟨inner, source, type, .item mem held, found⟩
    · cases h.pure
  | case3 type values =>
    intro h
    rcases h.bind_error (keeps _ _) with failed | ⟨_, _, h⟩
    · exact ⟨_, _, type, .here, .annot, rfl, failed⟩
    · cases h.pure
  | case5 type given shown values fits =>
    intro h
    rcases h.bind_error (keeps _ _) with failed | ⟨_, _, h⟩
    · exact ⟨_, _, type, .here, .store fits, rfl, failed⟩
    · cases h.pure
  | case2 | case7 =>
    intro h
    cases h.pure
  | case4 | case6 | case8 =>
    intro h
    cases h.throw
    exact absurd rfl deep

/-- Fitting a value fails over its own kind, or over something that it holds. -/
theorem fit_error (deep : e.category ≠ .lookup)
    (h : Yields (Sound reg) (fit owner nested name declared value) (.error e)) :
    ∃ inner source type, value.Holds inner ∧ inner.Stands type source ∧
      declared.inmost = .annot type ∧ Yields (Sound reg) (nested source type) (.error e) := by
  induction declared generalizing value with
  | array element ih =>
    refine fit_error_of_items keeps deep (fun inner same item failed => ?_) h
    cases same
    exact ih failed
  | _ => exact fit_error_of_items keeps deep (fun inner same => by cases same) h

/-- Fitting a value fails with a conflict only over something that it holds. -/
theorem fit_conflict (conflict : e.isConflict = true)
    (h : Yields (Sound reg) (fit owner nested name declared value) (.error e)) :
    ∃ inner source type, value.Holds inner ∧ inner.Stands type source ∧
      declared.inmost = .annot type ∧ Yields (Sound reg) (nested source type) (.error e) := by
  refine fit_error keeps (fun lookup => ?_) h
  cases lookup.symm.trans (Error.category_of_conflict conflict)

/-- Everything that stands for an annotation in a value that fits is of the declared type and is made
one. -/
theorem fit_held {fitted : Value}
    (h : Yields (Sound reg) (fit owner nested name declared value) (.ok fitted))
    (held : value.Holds inner) (stands : inner.Stands type source) :
    ∃ own made, declared.inmost = .annot own ∧ inner.Stands own source ∧
      Yields (Sound reg) (nested source own) (.ok made) := by
  have fits := fit_fits keeps h
  clear h
  induction declared generalizing value fitted with
  | array element ih =>
    obtain ⟨items, results, rfl, rfl, made⟩ := fits
    cases held with
    | here => cases stands
    | item mem held =>
      obtain ⟨result, _, first⟩ := partner_of_forall₂ made mem
      exact ih held first
  | annot own =>
    obtain ⟨source', annot, there, made, rfl⟩ := fits
    cases held with
    | here =>
      cases there.unique stands
      exact ⟨own, annot, rfl, there, made⟩
    | item _ _ => cases there
  | _ =>
    obtain ⟨rfl, conforms⟩ := fits
    cases held with
    | here => cases stands <;> cases conforms
    | item _ _ => cases conforms

end

variable {view view' : View} {source' : Source}
  {nested nested' : Value → Source → String → Action SynthMemo Annot}

theorem valuesWith_error
    (keeps : ∀ value source type, Keeps (Sound reg) (nested value source type))
    (h : Yields (Sound reg) (view.valuesWith nested) (.error e)) :
    ∃ attr ∈ view.type.attrs, Yields (Sound reg) (view.attrWith nested attr.name) (.error e) := by
  have reads (attr : Attr) := reg.asked_keeps.attrWith keeps view attr.name
  have each (attr : Attr) :=
    (Keeps.closed _).bind (reads attr) fun value => (Keeps.closed _).pure (attr.name, value)
  rcases h.bind_error ((Keeps.closed _).mapM each _) with failed | ⟨_, _, h⟩
  · obtain ⟨attr, mem, failed⟩ := failed.mapM_error each
    rcases failed.bind_error (reads attr) with failed | ⟨_, _, h⟩
    · exact ⟨attr, mem, failed⟩
    · cases h.pure
  · cases h.pure

/-- An attribute cannot be read where no value is picked or what is picked cannot be fitted. -/
theorem attrWith_error {nested : Value → Source → String → Action SynthMemo Annot} {read : String}
    {attr : Attr} (found : view.type.attr? read = some attr)
    (h : Yields (Sound reg) (view.attrWith nested read) (.error e)) :
    view.pick attr = .error e ∨ ∃ picked, view.pick attr = .ok picked ∧ Yields (Sound reg)
      (fit view.name (nested picked) attr.name attr.type (wrap attr.type picked)) (.error e) := by
  unfold attrWith at h
  simp only [found] at h
  rcases h.bind_error (reg.asked_keeps.lift _) with failed | ⟨picked, chosen, h⟩
  · exact .inl failed.lift.symm
  · exact .inr ⟨picked, chosen.lift.symm, h⟩

/-- Makers of annotations that never refuse a source for a conflict if an equal one was made. -/
def MakeCalm (reg : Registry) (nested nested' : Source → String → Action SynthMemo Annot) : Prop :=
  ∀ source source' type annot e, source.Same source' →
    Yields (Sound reg) (nested source type) (.ok annot) →
    Yields (Sound reg) (nested' source' type) (.error e) → e.IsFault

theorem pick_calm (of : view.Of reg source name) (of' : view'.Of reg source' name)
    (same : source.Same source') {attr : Attr} (picked : view.pick attr = .ok value)
    (failed : view'.pick attr = .error e) : e.IsFault := by
  obtain ⟨settled, went, _⟩ := Outcome.bind_ok picked
  rw [of.same_aliases of'] at went
  obtain ⟨_, ended, _⟩ := settle_same (of.raw_same of' same) (of.raw_same of' same attr.name) went
  rcases Outcome.bind_error failed with failed | ⟨_, _, failed⟩
  · cases ended.symm.trans failed
  · split at failed
    · cases failed
    · cases failed
      rfl

theorem fit_calm {nested nested' : Source → String → Action SynthMemo Annot}
    (keeps : ∀ source type, Keeps (Sound reg) (nested source type))
    (keeps' : ∀ source type, Keeps (Sound reg) (nested' source type))
    (calm : MakeCalm reg nested nested') {owner' name' : String} {value' fitted : Value}
    (same : value.same value' = true)
    (h : Yields (Sound reg) (fit owner nested name declared value) (.ok fitted))
    (h' : Yields (Sound reg) (fit owner' nested' name' declared value') (.error e)) :
    e.IsFault := by
  by_contra conflict
  obtain ⟨inner', source', type, held', stands', own, failed⟩ :=
    fit_conflict keeps' (by simpa [Error.IsFault] using conflict) h'
  obtain ⟨inner, held, alike⟩ := held'.same (same_symm same)
  obtain ⟨_, source, stands, equal⟩ := stands'.same alike
  obtain ⟨type', made, own', _, first⟩ := fit_held keeps h held stands
  cases own.symm.trans own'
  exact conflict (calm _ _ _ _ _ equal.symm first failed)

/-- Where an attribute is read, an equal source does not conflict over it. -/
theorem attrWith_calm (of : view.Of reg source name) (of' : view'.Of reg source' name)
    (same : source.Same source')
    (keeps : ∀ value source type, Keeps (Sound reg) (nested value source type))
    (keeps' : ∀ value source type, Keeps (Sound reg) (nested' value source type))
    (calm : ∀ value value', MakeCalm reg (nested value) (nested' value')) {attr : String}
    (h : Yields (Sound reg) (view.attrWith nested attr) (.ok value))
    (h' : Yields (Sound reg) (view'.attrWith nested' attr) (.error e)) : e.IsFault := by
  obtain ⟨attr, declared⟩ := attrWith_declared h
  obtain ⟨picked, pick, h⟩ := attrWith_ok declared h
  rcases attrWith_error (of.same_type of' ▸ declared) h' with failed | ⟨picked', pick', h'⟩
  · exact pick_calm of of' same pick failed
  · have alike := wrap_same attr.type (pick_same of of' same pick pick')
    exact fit_calm (keeps picked) (keeps' picked') (calm picked picked') alike h h'

end View

namespace Registry

variable {element element' : Option Element} {bound bound' : Nat} {source : Source} {type : String}

/-- A source cannot be made into an annotation where it may not nest any further, where there is no
view of it, or where an attribute cannot be read. -/
theorem materialize_error
    (h : Yields (Sound reg) (reg.materialize element bound source type) (.error e)) :
    e = .endlessDefault ∨ Yields (Sound reg) (reg.viewSource element source type) (.error e) ∨
      ∃ inner, ∃ view : View, bound = inner + 1 ∧ view.Of reg source (source.readAs type) ∧
        Yields (Sound reg) (view.valuesWith fun _ => reg.materialize element inner)
          (.error e) := by
  cases bound with
  | zero => exact .inl (Except.error.inj h.throw)
  | succ inner =>
    have nested := fun _ : Value => reg.asked_keeps.materialize element inner
    rw [materialize_succ] at h
    rcases h.bind_error (reg.asked_keeps.viewSource element source type) with
      failed | ⟨view, seen, h⟩
    · exact .inr (.inl failed)
    · rcases h.bind_error (reg.asked_keeps.valuesWith nested view) with failed | ⟨_, _, h⟩
      · exact .inr (.inr ⟨inner, view, rfl, viewSource_of seen, failed⟩)
      · cases h.pure

/-- What a source is made into conflicts only over an attribute that a view of it reads. -/
theorem materialize_conflict (conflict : e.isConflict = true)
    (h : Yields (Sound reg) (reg.materialize element bound source type) (.error e)) :
    ∃ inner, ∃ view : View, bound = inner + 1 ∧ view.Of reg source (source.readAs type) ∧
      Yields (Sound reg) (view.valuesWith fun _ => reg.materialize element inner) (.error e) := by
  rcases materialize_error h with rfl | refused | found
  · cases conflict
  · exact (((viewSource_faults _ _ _).yields refused).false conflict).elim
  · exact found

/-- Where a source is made into an annotation, an equal one does not conflict, for whatever element
and however deep either may nest. -/
theorem materialize_calm :
    View.MakeCalm reg (reg.materialize element bound) (reg.materialize element' bound') := by
  intro source source' type annot e same h h'
  induction bound generalizing bound' source source' type annot e with
  | zero => cases h.throw
  | succ bound ih =>
    by_contra conflict
    obtain ⟨_, view, size, of, _, read⟩ := materialize_ok h
    cases size
    obtain ⟨bound', view', rfl, of', failed⟩ :=
      materialize_conflict (by simpa [Error.IsFault] using conflict) h'
    have keeps := fun _ : Value => reg.asked_keeps.materialize element bound
    have keeps' := fun _ : Value => reg.asked_keeps.materialize element' bound'
    obtain ⟨attr, mem, failed⟩ := View.valuesWith_error keeps' failed
    obtain ⟨pairs, _, made⟩ := View.valuesWith_yields keeps read
    rw [← same.readAs] at of'
    rw [← of.same_type of'] at mem
    obtain ⟨pair, _, _, read⟩ := partner_of_forall₂ made mem
    exact conflict (View.attrWith_calm of of' same keeps keeps'
      (fun _ _ source source' type annot e same h h' => ih _ _ _ _ _ same h h') read failed)

end Registry

namespace Rendering

variable {rendering : Rendering} {nested : Annot → Action SynthMemo Value}
  (keeps : ∀ annot, Keeps (Sound reg) (nested annot)) {value rendered : Value}

include keeps

/-- What is rendered has every annotation that it holds rendered. -/
theorem renderWith_held {type : String} {values : Entries Value}
    (h : Yields (Sound reg) (rendering.renderWith nested value) (.ok rendered))
    (held : value.Holds (.annot type values)) :
    ∃ made, Yields (Sound reg) (nested ⟨type, values⟩) (.ok made) := by
  generalize target : Value.annot type values = inner at held
  induction held generalizing rendered with
  | here =>
    subst target
    exact ⟨rendered, h⟩
  | item mem _ ih =>
    unfold renderWith at h
    have each := reg.asked_keeps.renderWith keeps rendering
    obtain ⟨results, made, _⟩ := h.bind_ok (reg.asked_keeps.renderItems fun item _ => each item)
    obtain ⟨result, _, first⟩ := partner_of_forall₂ (renderItems_yields keeps made) mem
    exact ih first target

theorem renderItems_error {items : List Value}
    (h : Yields (Sound reg) (rendering.renderItems nested items) (.error e)) :
    ∃ item ∈ items, Yields (Sound reg) (rendering.renderWith nested item) (.error e) := by
  induction items with
  | nil => cases h.pure
  | cons item rest ih =>
    unfold renderItems at h
    have each := reg.asked_keeps.renderWith keeps rendering
    rcases h.bind_error (each item) with failed | ⟨_, _, h⟩
    · exact ⟨item, .head rest, failed⟩
    · rcases h.bind_error (reg.asked_keeps.renderItems fun item _ => each item) with
        failed | ⟨_, _, h⟩
      · obtain ⟨other, mem, failed⟩ := ih failed
        exact ⟨other, .tail item mem, failed⟩
      · cases h.pure

/-- Rendering fails only over an annotation that the value holds. -/
theorem renderWith_error
    (h : Yields (Sound reg) (rendering.renderWith nested value) (.error e)) :
    ∃ type values, value.Holds (.annot type values) ∧
      Yields (Sound reg) (nested ⟨type, values⟩) (.error e) := by
  induction value using Value.inside_induction with
  | annot type values _ => exact ⟨type, values, .here, h⟩
  | array items ih =>
    unfold renderWith at h
    have each := reg.asked_keeps.renderWith keeps rendering
    rcases h.bind_error (reg.asked_keeps.renderItems fun item _ => each item) with
      failed | ⟨_, _, h⟩
    · obtain ⟨item, mem, failed⟩ := renderItems_error keeps failed
      obtain ⟨type, values, held, failed⟩ := ih item mem failed
      exact ⟨type, values, .item mem held, failed⟩
    · cases h.pure
  | _ => cases h.pure

end Rendering
end Annotations
