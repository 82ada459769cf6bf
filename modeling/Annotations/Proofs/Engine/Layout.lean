import Annotations.Proofs.Engine.Trails
import Annotations.Proofs.Merge.Layout
import Annotations.Vocabulary.Web

/-!
The names of merged stores: every store that an engine returns for an annotation type says that it is
of this type, and holds the declared attributes and nothing else, in the order of declaration.
-/
namespace Annotations

open Annotations.Action SynthMemo Registry

namespace Engine

variable {engine : Engine} {type : String} {decl : AnnotType}

/-- Every store that an engine returns, as a merge of either kind or for a single annotation, is of the
type that was asked for and laid out as that declares, whatever annotations overrode it. -/
theorem stores_laid_out (known : engine.reg.type type = .ok decl)
    (distinct : (decl.attrs.map (·.name)).Nodup) (calls : List Call) :
    (∀ element rendering store,
      (engine.getMergedWith element type rendering (engine.run calls {}).2).1 = .ok (some store) →
      store.type = some type ∧ store.names = decl.attrs.map (·.name)) ∧
    (∀ element rendering store,
      (engine.findMergedWith element type rendering (engine.run calls {}).2).1 = .ok (some store) →
      store.type = some type ∧ store.names = decl.attrs.map (·.name)) ∧
    ∀ element annot rendering store, annot.type = type →
      (engine.annotAttributes element annot rendering (engine.run calls {}).2).1 = .ok store →
      store.type = some type ∧ store.names = decl.attrs.map (·.name) := by
  have merged (kind : SearchKind) (element : Element) (rendering : Rendering) (store : Store)
      (h : (engine.merged ⟨kind, element, type, rendering⟩ (engine.run calls {}).2).1 =
        .ok (some store)) :
      store.type = some type ∧ store.names = decl.attrs.map (·.name) := by
    obtain ⟨s, hs, anew⟩ := engine.run_merged calls ⟨kind, element, type, rendering⟩
    obtain ⟨_, pending, builds, finished⟩ := mergeAnew_found hs (anew.trans h)
    obtain ⟨same, laid⟩ := Merge.builds_laid known distinct builds
    have out := finishWith_laid (engine.reg.asked_keeps.render _ _) laid distinct finished
    rw [same] at out
    exact out
  refine ⟨merged .get, merged .find, fun element annot rendering store same h => ?_⟩
  subst same
  exact annotAttributes_laid known distinct ⟨_, (engine.run_sensible calls).memo, h⟩

/-- The mapping of a controller, merged from a composed annotation that overrides its path by name and
the rest through aliases. -/
theorem web_stores_laid_out :
    ((Registry.web.type "web.Mapping").toOption.any fun decl =>
        (decl.attrs.map (·.name)).Nodup) = true ∧
      ∃ store, (Engine.web.findMergedWith (.classLike "app.Controller") "web.Mapping" .raw
          (Engine.web.run [.isSynthesizable "web.Composed"] {}).2).1 = .ok (some store) ∧
        store.type = some "web.Mapping" ∧
        store.names = ["name", "value", "path", "method", "headers"] := by
  obtain ⟨decl, known, names⟩ : ∃ decl, Registry.web.type "web.Mapping" = .ok decl ∧
      decl.attrs.map (·.name) = ["name", "value", "path", "method", "headers"] := ⟨_, rfl, rfl⟩
  have distinct : (decl.attrs.map (·.name)).Nodup := by
    rw [names]
    decide
  have all := (@stores_laid_out Engine.web "web.Mapping" decl known distinct
    [.isSynthesizable "web.Composed"]).2.1 (.classLike "app.Controller") .raw
  have found : ((Engine.web.findMergedWith (.classLike "app.Controller") "web.Mapping" .raw
      (Engine.web.run [.isSynthesizable "web.Composed"] {}).2).1.toOption.join).isSome = true := by
    with_unfolding_all decide
  refine ⟨by
    rw [known]
    exact decide_eq_true distinct, ?_⟩
  generalize (Engine.web.findMergedWith (.classLike "app.Controller") "web.Mapping" .raw _).1 =
    outcome at all found ⊢
  match outcome with
  | .error _ => cases found
  | .ok none => cases found
  | .ok (some store) =>
    obtain ⟨named, laid⟩ := all store rfl
    exact ⟨store, rfl, named, laid.trans names⟩

end Engine
end Annotations
