import Annotations.Proofs.Engine.Trails
import Annotations.Proofs.Merge.Completeness
import Annotations.Vocabulary.Web

/-!
Complete rendering of merges: where no store is written anywhere, a merge that renders nested
annotations as stores leaves no annotation at any depth, and classes only if they may stay.
-/
namespace Annotations

open Annotations.Action SynthMemo Registry

theorem Search.Leads.gives {search : Search} {kind : SearchKind} {target : String} {trail : Trail}
    (h : search.Leads kind target trail) : ∀ step ∈ trail, search.reg.Gives step.2 := by
  induction h with
  | last bears _ => exact List.forall_mem_singleton.2 bears.gives
  | step bears _ _ ih => exact List.forall_mem_cons.2 ⟨bears.gives, ih⟩

/-- No store is part of defaults and annotations that are seen to have none. -/
theorem Registry.storeFree_of_entries {reg : Registry}
    (defaults : ∀ entry ∈ reg.types, ∀ attr ∈ entry.2.attrs, ∀ value ∈ attr.default?,
      value.isStoreFree = true)
    (annots : ∀ element ∈ reg.elements, ∀ annots ∈ (reg.declaredAnnots element).toOption,
      ∀ annot ∈ annots, annot.toValue.isStoreFree = true) : reg.StoreFree where
  defaults type decl attr value known mem own :=
    .of_isStoreFree (defaults _ (mem_of_type known) attr mem value own)
  annots element found annot declared mem :=
    .of_isStoreFree (annots element (mem_elements_of_declared declared) found
      (by rw [declared]; rfl) annot mem)

namespace Engine

variable {engine : Engine}

/-- Whatever was called before, nothing in a merged store is left to render, in arrays, in nested stores
and at any depth: no annotation is there, each nested store has the type of the annotation that it came
of, and if classes are rendered as text, no class is there. -/
theorem merged_complete (free : engine.reg.StoreFree) (calls : List Call) (key : MergeKey)
    (stores : key.rendering.nestedAsStores = true) {store : Store}
    (h : (engine.merged key (engine.run calls {}).2).1 = .ok (some store)) {name : String}
    {value inner : Value} (own : store.get? name = some value) (part : value.Part inner) :
    (∀ type values, inner ≠ .annot type values) ∧
    (∀ type shown values, inner = .store type shown values →
      ∃ annot, type = some annot.type ∧ engine.reg.RendersInto key.rendering annot inner) ∧
    (key.rendering.classesAsText = true → ∀ class', inner ≠ .classRef class') := by
  obtain ⟨s, sensible, anew⟩ := engine.run_merged calls key
  obtain ⟨leads, pending, builds, finished⟩ := mergeAnew_found sensible (anew.trans h)
  have ready : pending.Ready engine.reg key.rendering :=
    Merge.builds_ready free stores builds leads.gives
  have final : value.Final engine.reg key.rendering :=
    finishWith_final (engine.reg.asked_keeps.render key.element key.rendering)
      (fun value rendered flat made => render_final free stores flat made) ready finished own
  have final := final.part part
  refine ⟨?annots, ?stores, ?classes⟩
  case annots =>
    rintro type values rfl
    cases final
  case stores =>
    rintro type shown values rfl
    cases final with
    | store into _ => exact ⟨_, rfl, into⟩
  case classes =>
    rintro asText class' rfl
    cases final with
    | classRef _ kept => cases kept.symm.trans asText

/-- The mapping of a controller, merged from a composed annotation that gives it a header: the header is
a store of its type, which an annotation of this type becomes. -/
theorem web_merged_complete :
    Registry.web.StoreFree ∧ ∃ store header,
      (Engine.web.merged ⟨.find, .classLike "app.UserController", "web.Mapping", ⟨true, true⟩⟩
        (Engine.web.run [.isSynthesizable "web.Header"] {}).2).1 = .ok (some store) ∧
      store.get? "headers" = some (.array [header]) ∧
      header.same (.store none none [("name", .text "Accept"), ("value", .text "")]) = true ∧
      ∃ annot : Annot, annot.type = "web.Header" ∧
        Registry.web.RendersInto ⟨true, true⟩ annot header := by
  have free : Registry.web.StoreFree :=
    storeFree_of_entries (by with_unfolding_all decide) (by with_unfolding_all decide)
  have all := @merged_complete Engine.web free [.isSynthesizable "web.Header"]
    ⟨.find, .classLike "app.UserController", "web.Mapping", ⟨true, true⟩⟩ rfl
  have held : (Engine.web.merged
      ⟨.find, .classLike "app.UserController", "web.Mapping", ⟨true, true⟩⟩
      (Engine.web.run [.isSynthesizable "web.Header"] {}).2).1.toOption.join.bind
        (·.get? "headers") = some (.array [.store (some "web.Header") none
          [("name", .text "Accept"), ("value", .text "")]]) := by
    with_unfolding_all rfl
  refine ⟨free, ?_⟩
  generalize (Engine.web.merged ⟨.find, .classLike "app.UserController", "web.Mapping", _⟩ _).1 =
    found at all held ⊢
  match found with
  | .error _ => cases held
  | .ok none => cases held
  | .ok (some store) =>
    have own : store.get? "headers" = _ := held
    obtain ⟨_, into, _⟩ := all rfl own (.item (.head []) .here)
    obtain ⟨annot, type, into⟩ := into _ _ _ rfl
    exact ⟨store, _, rfl, own, by with_unfolding_all decide, annot, (Option.some.inj type).symm, into⟩

end Engine
end Annotations
