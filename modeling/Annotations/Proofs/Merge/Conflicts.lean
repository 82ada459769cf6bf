import Annotations.Proofs.Merge.Clashes
import Annotations.Proofs.Merge.Overlay

/-!
Conflicts and failures of introspection over single annotations: rendering a value, and the store of an
annotation that nothing overrides, fail with a conflict only over an annotation that contradicts itself,
and for introspection only over one that cannot be resolved.
-/
namespace Annotations

open Annotations.Action SynthMemo Registry

variable {reg : Registry} {e : Error} {render : Value → Action SynthMemo Value}

namespace Pending

variable {I : SynthMemo → Prop} {annot : Annot} {decl : AnnotType} {pending : Pending}
  {name : String}

theorem From.offers (h : pending.From I render annot decl) (known : reg.type annot.type = .ok decl)
    {value : Value} (own : pending.slots.get? name = some (.default value)) :
    reg.Offers annot.type (.annot annot) value := by
  obtain ⟨attr, mem, found, _⟩ := h.default own
  exact .of_or known mem found

end Pending

/-- What two attributes of one alias list are given differently by an annotation alone, it gives
them explicitly. -/
theorem Pending.From.contradicts {annot : Annot} {decl : AnnotType} {pending : Pending}
    {groups : Entries (List String)} {name partner : String} {value other : Value}
    (h : pending.From (Sound reg) render annot decl) (known : reg.type annot.type = .ok decl)
    (mapped : reg.aliasMap annot.type = .ok groups) (same : RenderSame reg render render)
    (mem : partner ∈ listed groups name) (own : pending.slots.get? name = some (.given value))
    (theirs : pending.slots.get? partner = some (.given other))
    (differ : value.same other = false) : reg.Contradicts annot.type (.annot annot) := by
  obtain ⟨first, inside, left, rfl, explicit, apart, rendered⟩ := h.given own
  obtain ⟨second, inside', right, rfl, explicit', apart', rendered'⟩ := h.given theirs
  refine ⟨decl, groups, first.name, known, mapped, first, inside, second, inside', left, right,
    .head _, .tail _ mem, explicit, explicit', apart, apart', ?_⟩
  by_contra alike
  rw [same _ _ _ _ (by simpa using alike) rendered rendered'] at differ
  cases differ

namespace Registry

variable (keeps : ∀ value, Keeps (Sound reg) (render value))

include keeps

/-- Pending attributes cannot be finished where there is no alias map of their type, where an attribute
and an alias of it were given different values, or where the default of an attribute that neither
itself nor by an alias was given a value cannot be rendered. -/
theorem finishWith_error {element : Element} {pending : Pending}
    (distinct : pending.slots.names.Nodup)
    (h : Yields (Sound reg) (reg.finishWith render element pending) (.error e)) :
    Yields (Sound reg) (reg.recallAliasMap pending.type) (.error e) ∨
    ∃ groups, reg.aliasMap pending.type = .ok groups ∧
      ((∃ name value partner other, partner ∈ listed groups name ∧
        pending.slots.get? name = some (.given value) ∧
        pending.slots.get? partner = some (.given other) ∧ value.same other = false ∧
        e = .attributeConflict pending.type element.display name partner value.display
          other.display) ∨
      ∃ name value, pending.slots.get? name = some (.default value) ∧
        (∀ partner ∈ listed groups name, pending.declared.get? partner = none) ∧
        Yields (Sound reg) (render value) (.error e)) := by
  have unset {name : String} (own : pending.declared.get? name = none) :
      (pending.slots.get? name).bind Slot.given? = none := by
    rw [← Pending.declared_get? distinct, own]
  rcases h.bind_error (reg.asked_keeps.aliasMap _) with failed | ⟨groups, mapped, h⟩
  · exact .inl failed
  have mapped := (mapped.computes (reg.recallAliasMap_computes _)).symm
  refine .inr ⟨groups, mapped, ?_⟩
  rcases h.bind_error (reg.asked_keeps.lift _) with failed | ⟨slots, shared, h⟩
  · obtain ⟨name, value, partner, other, own, mem, theirs, apart, rfl⟩ :=
      Pending.shareAll_error (aliasMap_distinct mapped) (fun _ own _ => unset own) failed.lift.symm
    exact .inl ⟨name, value, partner, other, mem,
      Pending.given_of_declared distinct own, Pending.given_of_declared distinct theirs, apart, rfl⟩
  · have shared := Pending.shareAll_shared (aliasMap_distinct mapped) (fun _ own _ => unset own)
      shared.lift.symm
    obtain ⟨name, value, mem, failed⟩ := storeSlots_error keeps h
    obtain ⟨own, alone⟩ := shared.default (Entries.get?_of_mem (shared.distinct distinct) mem)
    have undeclared : pending.declared.get? name = none := by
      rw [Pending.declared_get? distinct, own]
      rfl
    exact .inr ⟨name, value, own, alone undeclared, failed⟩

/-- Pending attributes cannot be finished for a conflict only where an attribute and an alias of it
were given different values, or where the default of an attribute that neither itself nor by an alias
was given a value cannot be rendered. -/
theorem finishWith_conflict {element : Element} {pending : Pending}
    (distinct : pending.slots.names.Nodup) (conflict : e.isConflict = true)
    (h : Yields (Sound reg) (reg.finishWith render element pending) (.error e)) :
    ∃ groups, reg.aliasMap pending.type = .ok groups ∧
      ((∃ name value partner other, partner ∈ listed groups name ∧
        pending.slots.get? name = some (.given value) ∧
        pending.slots.get? partner = some (.given other) ∧ value.same other = false ∧
        e = .attributeConflict pending.type element.display name partner value.display
          other.display) ∨
      ∃ name value, pending.slots.get? name = some (.default value) ∧
        (∀ partner ∈ listed groups name, pending.declared.get? partner = none) ∧
        Yields (Sound reg) (render value) (.error e)) :=
  (finishWith_error keeps distinct h).resolve_left fun failed =>
    ((recalls_faults.aliasMap _ _).yields failed).false conflict

/-- Where the store of an annotation alone cannot be made, the annotation explains that or something
it offers that cannot be rendered for it. -/
theorem retrieveWith_explains
    (deeper : ∀ value, Yields (Sound reg) (render value) (.error e) → reg.Explains value e)
    {annot : Annot} (h : Yields (Sound reg) (reg.retrieveWith render annot) (.error e)) :
    reg.Explains annot.toValue e := by
  rcases h.bind_error (reg.asked_keeps.lift _) with failed | ⟨decl, known, h⟩
  · exact ⟨annot.type, .annot annot, .here .annot, .inr (.unknown .refl failed.lift.symm)⟩
  have known := known.lift.symm
  rcases h.bind_error (reg.asked_keeps.slotsOf keeps annot decl.attrs []) with failed | ⟨_, _, h⟩
  · obtain ⟨attr, mem, ⟨absent, missing⟩ | ⟨value, found, _, failed⟩⟩ := slotsOf_error keeps failed
    · obtain ⟨ungiven, undefaulted⟩ := Option.or_eq_none_iff.1 absent
      exact ⟨annot.type, .annot annot, .here .annot,
        .inr (.missing known mem ungiven undefaulted missing)⟩
    · exact .of_offers .annot (.of_or known mem found) (deeper value failed)
  · cases h.pure

theorem finishWith_explains (traced : e.isTraced = true) (same : RenderSame reg render render)
    (deeper : ∀ value, Yields (Sound reg) (render value) (.error e) → reg.Explains value e)
    {element : Element} {annot : Annot} {pending : Pending}
    (made : Yields (Sound reg) (reg.retrieveWith render annot) (.ok pending))
    (h : Yields (Sound reg) (reg.finishWith render element pending) (.error e)) :
    reg.Explains annot.toValue e := by
  obtain ⟨decl, known, origin⟩ := retrieveWith_from keeps made
  obtain unmapped | ⟨groups, mapped, ⟨name, value, partner, other, mem, own, theirs, differ, rfl⟩ |
    ⟨name, value, own, _, failed⟩⟩ := finishWith_error keeps origin.distinct h
  · rcases Bool.or_eq_true_iff.1 traced with conflict | introspection
    · exact (((recalls_faults.aliasMap _ _).yields unmapped).false conflict).elim
    · have failed := (unmapped.computes (reg.recallAliasMap_computes _)).symm
      rw [origin.type] at failed
      cases known.symm.trans (aliasMap_unknown introspection failed)
  · rw [origin.type] at mapped
    exact ⟨annot.type, .annot annot, .here .annot,
      .inl ⟨rfl, origin.contradicts known mapped same mem own theirs differ⟩⟩
  · exact .of_offers .annot (origin.offers known own) (deeper value failed)

end Registry

namespace Rendering

variable {rendering : Rendering}

theorem renderWith_explains {nested : Annot → Action SynthMemo Value}
    (keeps : ∀ annot, Keeps (Sound reg) (nested annot))
    (deeper : ∀ annot, Yields (Sound reg) (nested annot) (.error e) →
      reg.Explains annot.toValue e)
    {value : Value} (h : Yields (Sound reg) (rendering.renderWith nested value) (.error e)) :
    reg.Explains value e := by
  obtain ⟨type, values, held, failed⟩ := renderWith_error keeps h
  exact .of_holds held (deeper ⟨type, values⟩ failed)

variable (traced : e.isTraced = true)

include traced

/-- Where a nested annotation cannot be rendered, something in it explains that. -/
theorem renderNested_explains {element : Element} {bound : Nat} {annot : Annot}
    (h : Yields (Sound reg) (rendering.renderNested reg element bound annot) (.error e)) :
    reg.Explains annot.toValue e := by
  induction bound generalizing annot with
  | zero =>
    cases h.throw
    cases traced
  | succ bound ih =>
    unfold renderNested at h
    split at h
    · have nested := reg.asked_keeps.renderNested rendering element bound
      have keeps := reg.asked_keeps.renderWith nested rendering
      have same : RenderSame reg (rendering.renderWith (rendering.renderNested reg element bound))
          (rendering.renderWith (rendering.renderNested reg element bound)) :=
        renderWith_same nested nested renderNested_same
      have deeper (value : Value)
          (h : Yields (Sound reg)
            (rendering.renderWith (rendering.renderNested reg element bound) value) (.error e)) :
          reg.Explains value e :=
        renderWith_explains nested (fun _ => ih) h
      dsimp only at h
      rcases h.bind_error (reg.asked_keeps.retrieveWith keeps annot) with
        failed | ⟨pending, made, h⟩
      · exact retrieveWith_explains keeps deeper failed
      · rcases h.bind_error (reg.asked_keeps.finishWith keeps element pending) with
          failed | ⟨_, _, h⟩
        · exact finishWith_explains keeps traced same deeper made failed
        · cases h.pure
    · rcases h.bind_error (reg.asked_keeps.materialize _ _ _ _) with failed | ⟨_, _, h⟩
      · exact materialize_explains traced failed .annot
      · cases h.pure

end Rendering

/-- Where a value cannot be rendered, something in it explains that. -/
theorem Registry.render_explains (traced : e.isTraced = true) {element : Element}
    {rendering : Rendering} {value : Value}
    (h : Yields (Sound reg) (reg.render element rendering value) (.error e)) :
    reg.Explains value e :=
  Rendering.renderWith_explains (reg.asked_keeps.renderNested rendering element _)
    (fun _ => Rendering.renderNested_explains traced) h

/-- A value cannot be rendered for a conflict only over something in it. -/
theorem Registry.render_clashes (conflict : e.isConflict = true) {element : Element}
    {rendering : Rendering} {value : Value}
    (h : Yields (Sound reg) (reg.render element rendering value) (.error e)) : reg.Clashes value :=
  (render_explains (Error.traced_of_conflict conflict) h).clashes conflict

/-- An annotation on an element contradicts itself or holds something that does, as it stands or as
a view of it reads an attribute. -/
def Registry.ClashesAt (reg : Registry) (element : Element) (annot : Annot) : Prop :=
  reg.Clashes annot.toValue ∨ ∃ view name value,
    Yields (Sound reg) (reg.viewAnnot annot (some element)) (.ok view) ∧
    Yields (Sound reg) (view.attr reg name) (.ok value) ∧ reg.Clashes value

namespace Merge

variable {merge : Merge} {element : Element} {annot : Annot} {view : View}
  {groups : Entries (List String)} {pending : Pending}

theorem writeAll_error {source : String} {targets : List String}
    (h : Yields (Sound merge.reg) (merge.writeAll element view source targets pending) (.error e)) :
    Yields (Sound merge.reg) (merge.read element view source) (.error e) := by
  rw [writeAll_eq] at h
  rcases h.bind_error (merge.read_keeps element view source) with failed | ⟨_, _, h⟩
  · exact failed
  · cases h.pure

variable (conflict : e.isConflict = true)

include conflict

/-- Attributes cannot overlay others for a conflict only where one of them cannot be read. -/
theorem overlay_error {attrs : List Attr} {written : List String}
    (h : Yields (Sound merge.reg) (merge.overlay element view groups attrs written pending)
      (.error e)) :
    ∃ attr ∈ attrs, Yields (Sound merge.reg) (merge.read element view attr.name) (.error e) := by
  induction attrs generalizing written pending with
  | nil => cases h.pure
  | cons attr rest ih =>
    have later {written : List String} {pending : Pending}
        (h : Yields (Sound merge.reg) (merge.overlay element view groups rest written pending)
          (.error e)) :
        ∃ other ∈ attr :: rest,
          Yields (Sound merge.reg) (merge.read element view other.name) (.error e) := by
      obtain ⟨other, mem, failed⟩ := ih h
      exact ⟨other, .tail attr mem, failed⟩
    unfold overlay at h
    rcases h.bind_error (merge.reg.asked_keeps.overrideName _ _ _) with failed | ⟨aim, _, h⟩
    · exact (((recalls_faults.overrideName _ _ _ _).yields failed).false conflict).elim
    cases aim with
    | some name =>
      simp only at h
      split at h
      · exact later h
      · rcases h.bind_error (writeAll_asked merge.reg.asked_keeps _ _ _ _ _) with failed | ⟨_, _, h⟩
        · exact ⟨attr, .head rest, writeAll_error failed⟩
        · exact later h
    | none =>
      simp only at h
      split at h
      · rcases h.bind_error (writeAll_asked merge.reg.asked_keeps _ _ _ _ _) with failed | ⟨_, _, h⟩
        · exact ⟨attr, .head rest, writeAll_error failed⟩
        · exact later h
      · exact later h

/-- An annotation cannot override others for a conflict only over what it holds itself. -/
theorem override_clashes
    (h : Yields (Sound merge.reg) (merge.override element annot pending) (.error e)) :
    merge.reg.ClashesAt element annot := by
  rcases h.bind_error (merge.reg.asked_keeps.viewAnnot annot _) with failed | ⟨view, seen, h⟩
  · exact (((viewAnnot_faults _ _).yields failed).false conflict).elim
  rcases h.bind_error (merge.reg.asked_keeps.aliasMap _) with failed | ⟨groups, _, h⟩
  · exact (((recalls_faults.aliasMap _ _).yields failed).false conflict).elim
  obtain ⟨attr, _, failed⟩ := overlay_error conflict h
  rcases failed.bind_error (merge.reg.asked_keeps.attr view attr.name) with
    failed | ⟨value, reads, failed⟩
  · have traced := Error.traced_of_conflict conflict
    exact .inl ((attr_explains traced (viewAnnot_of seen) .annot failed).clashes conflict)
  · exact .inr ⟨view, attr.name, value, seen, reads, render_clashes conflict failed⟩

theorem process_clashes {depth : Nat}
    (h : Yields (Sound merge.reg) (merge.processor.process element annot depth) (.error e)) :
    merge.reg.ClashesAt element annot := by
  simp only [processor] at h
  split at h
  · have keeps := merge.reg.asked_keeps.render element merge.rendering
    have traced := Error.traced_of_conflict conflict
    have explained := retrieveWith_explains keeps (fun _ failed => render_explains traced failed)
      h.map_error
    exact .inl (explained.clashes conflict)
  · cases h.pure

/-- A merge breaks off for a conflict only at an annotation that holds one itself. -/
theorem breaks_clashes {trail : Trail} (h : merge.processor.Breaks (Sound merge.reg) trail e) :
    ∃ step ∈ trail, merge.reg.ClashesAt step.1 step.2 := by
  cases h with
  | last failed => exact ⟨_, .head _, process_clashes conflict failed⟩
  | step _ failed => exact ⟨_, .head _, override_clashes conflict failed⟩

end Merge
end Annotations
