import Annotations.Proofs.Alias.Symmetry
import Annotations.Proofs.Merge.Overlay

/-!
What a merged store is drawn from: it has a value for each attribute of its type and for nothing else,
and each of its values came out of rendering, whichever annotation of the trail gave it.
-/
namespace Annotations

open Annotations.Action SynthMemo Registry

variable {reg : Registry} {rendering : Rendering} {decl : AnnotType}

/-- A value that came out of rendering. -/
def Registry.Rendered (reg : Registry) (rendering : Rendering) (rendered : Value) : Prop :=
  ∃ element value, Yields (Sound reg) (reg.render element rendering value) (.ok rendered)

/-- Only declared attributes have slots, and what they were given came out of rendering. -/
structure Pending.Drawn (reg : Registry) (rendering : Rendering) (decl : AnnotType)
    (pending : Pending) : Prop where
  known : reg.type pending.type = .ok decl
  declared : ∀ name slot, pending.slots.get? name = some slot → name ∈ decl.attrs.map (·.name)
  rendered : ∀ name value, pending.slots.get? name = some (.given value) →
    reg.Rendered rendering value

namespace Pending.Drawn

variable {pending : Pending} {value : Value}

theorem giveAll (h : pending.Drawn reg rendering decl) {names : List String}
    (declared : ∀ name ∈ names, name ∈ decl.attrs.map (·.name))
    (rendered : reg.Rendered rendering value) :
    (pending.giveAll value names).Drawn reg rendering decl where
  known := by
    rw [giveAll_type]
    exact h.known
  declared name slot own := by
    rw [giveAll_get?] at own
    split at own
    · rename_i mem
      exact declared name mem
    · exact h.declared name slot own
  rendered name value own := by
    rw [giveAll_get?] at own
    split at own
    · cases own
      exact rendered
    · exact h.rendered name value own

/-- What an annotation by itself gives its attributes came out of rendering. -/
theorem of_from {element : Element} {annot : Annot} (known : reg.type annot.type = .ok decl)
    (h : pending.From (Sound reg) (reg.render element rendering) annot decl) :
    pending.Drawn reg rendering decl where
  known := by
    rw [h.type]
    exact known
  declared name slot own := by
    obtain ⟨attr, mem, rfl, _⟩ := h.slot name slot own
    exact List.mem_map_of_mem mem
  rendered name rendered own := by
    obtain ⟨_, _, value, _, _, _, made⟩ := h.given own
    exact ⟨element, value, made⟩

end Pending.Drawn

namespace Merge

variable {merge : Merge} {element : Element} {view : View} {groups : Entries (List String)}

theorem rendered_of_read {source : String} {value : Value}
    (h : Yields (Sound merge.reg) (merge.read element view source) (.ok value)) :
    merge.reg.Rendered merge.rendering value := by
  obtain ⟨given, _, made⟩ := h.bind_ok (merge.reg.asked_keeps.attr view source)
  exact ⟨element, given, made⟩

/-- An attribute gives one value, read from the view, to declared attributes only, the one it overrides
and its aliases, or to one that has a slot already. -/
theorem Writes.gives {attr : Attr} {start stop : List String × Pending}
    (h : Writes merge element view groups attr start stop)
    (mapped : merge.reg.aliasMap start.2.type = .ok groups)
    (known : merge.reg.type start.2.type = .ok decl) : stop.2 = start.2 ∨ ∃ names value,
      Yields (Sound merge.reg) (merge.read element view attr.name) (.ok value) ∧
      stop.2 = start.2.giveAll value names ∧
      ∀ name ∈ names, name ∈ decl.attrs.map (·.name) ∨ start.2.slots.has name = true := by
  cases h with
  | @group name value written pending lands _ reads =>
    obtain ⟨_, map⟩ := aliasMapOf_aliasMap mapped
    cases known.symm.trans map.known
    obtain ⟨_, target, known', declared⟩ := (overrideName_behind lands).declared
    cases known.symm.trans known'
    refine .inr ⟨_, value, reads, rfl, fun other mem => .inl ?_⟩
    rcases List.mem_cons.1 (mem_unwritten.1 mem).1 with rfl | listed
    · obtain ⟨inside, rfl⟩ := mem_of_attr? declared
      exact List.mem_map_of_mem inside
    · exact map.target_declared listed
  | again _ _ => exact .inl rfl
  | @named value _ _ _ _ there reads =>
    refine .inr ⟨[attr.name], value, reads, rfl, fun name mem => .inr ?_⟩
    rwa [List.mem_singleton.1 mem]
  | pass _ => exact .inl rfl

theorem Writes.drawn {attr : Attr} {start stop : List String × Pending}
    (h : Writes merge element view groups attr start stop)
    (mapped : merge.reg.aliasMap start.2.type = .ok groups)
    (before : start.2.Drawn merge.reg merge.rendering decl) :
    stop.2.Drawn merge.reg merge.rendering decl := by
  rcases h.gives mapped before.known with same | ⟨names, value, reads, same, there⟩
  · rwa [same]
  · rw [same]
    refine before.giveAll (fun name mem => (there name mem).elim id fun has => ?_)
      (rendered_of_read reads)
    obtain ⟨slot, own⟩ := Option.isSome_iff_exists.1 has
    exact before.declared _ _ own

/-- Whatever a merge makes of a trail is drawn from rendered values. -/
theorem builds_drawn {trail : Trail} {pending : Pending}
    (h : merge.processor.Builds (Sound merge.reg) trail pending) :
    ∃ decl, pending.Drawn merge.reg merge.rendering decl := by
  refine builds_induction
    (P := fun _ pending => ∃ decl, pending.Drawn merge.reg merge.rendering decl)
    (fun element annot pending _ retrieved => ?last)
    (fun element annot trail inner pending view groups written _ ih _ mapped overlays => ?step) h
  case last =>
    obtain ⟨decl, known, origin⟩ :=
      retrieveWith_from (merge.reg.asked_keeps.render element merge.rendering) retrieved
    exact ⟨decl, .of_from known origin⟩
  case step =>
    obtain ⟨decl, drawn⟩ := ih
    have all : pending.type = inner.type ∧ pending.Drawn merge.reg merge.rendering decl := by
      refine overlays.keeps_by
        (P := fun pending => pending.type = inner.type ∧
          pending.Drawn merge.reg merge.rendering decl)
        (fun attr start stop writes before => ?_) ⟨rfl, drawn⟩
      rw [← before.1] at mapped
      exact ⟨writes.type.trans before.1, writes.drawn mapped before.2⟩
    exact ⟨decl, all.2⟩

end Merge

/-- The store of pending attributes has a value for each declared attribute and for nothing else, and
each value came out of rendering. -/
theorem Registry.finish_drawn {element : Element} {pending : Pending} {store : Store}
    (filled : pending.Filled reg) (drawn : pending.Drawn reg rendering decl)
    (h : Yields (Sound reg) (reg.finish element rendering pending) (.ok store)) :
    (∀ attr ∈ decl.attrs, ∃ value, store.get? attr.name = some value) ∧
    ∀ name value, store.get? name = some value →
      name ∈ decl.attrs.map (·.name) ∧ reg.Rendered rendering value := by
  obtain ⟨groups, slots, mapped, shared, _, stored⟩ :=
    finishWith_store (reg.asked_keeps.render element rendering) filled.distinct h
  obtain ⟨_, map⟩ := aliasMapOf_aliasMap mapped
  cases drawn.known.symm.trans map.known
  refine ⟨fun attr mem => ?_, fun name value held => ?_⟩
  · obtain ⟨slot, own, _⟩ := filled.slot decl drawn.known attr mem
    have there : (slots.get? attr.name).isSome = true := by
      rw [shared.final]
      exact Pending.completed_isSome (by rw [own]; rfl)
    obtain ⟨slot', final⟩ := Option.isSome_iff_exists.1 there
    obtain ⟨value, held, _⟩ := stored _ _ final
    exact ⟨value, held⟩
  · rcases finishWith_held (reg.asked_keeps.render element rendering) filled.distinct h held with
      ⟨slot, own, holds⟩ | ⟨groups', partner, mapped', listed, given⟩
    · refine ⟨drawn.declared name slot own, ?_⟩
      cases slot with
      | given _ =>
        cases holds
        exact drawn.rendered name value own
      | default fallback => exact ⟨element, fallback, holds⟩
    · cases mapped.symm.trans mapped'
      exact ⟨map.source_declared listed, drawn.rendered partner value given⟩

end Annotations
