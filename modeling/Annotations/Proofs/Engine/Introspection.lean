import Annotations.Proofs.Engine.Conflicts

/-!
Failures of introspection of merges. A search recovers from them wherever it meets them, so a merge
fails for introspection only in its last step: the last annotation of its trail leaves an attribute at
its default, and something in an annotation nested there cannot be resolved.
-/
namespace Annotations

open Annotations.Action SynthMemo Registry
open Value (sameOption)

/-- An annotation leaves an attribute at its default, by giving it no value or an equal one, and there
stands an annotation in which something cannot be resolved. -/
def Registry.DefaultUnresolved (reg : Registry) (annot : Annot) (e : Error) : Prop :=
  ∃ decl, reg.type annot.type = .ok decl ∧ ∃ attr ∈ decl.attrs, ∃ value,
    (annot.value? attr.name).or attr.default? = some value ∧
    sameOption attr.default? (some value) = true ∧ ∃ type values,
      value.Holds (.annot type values) ∧ ∃ inner source,
        reg.Inside inner source (.annot type values) ∧ reg.Unresolved e inner source

/-- The last step fails for introspection only over what the last annotation of a trail leaves at a
default. -/
theorem Merge.finish_unresolved {merge : Merge} {trail : Trail} {pending : Pending}
    {element : Element} {e : Error} (introspection : e.isIntrospection = true)
    (builds : merge.processor.Builds (Sound merge.reg) trail pending)
    (h : Yields (Sound merge.reg) (merge.reg.finish element merge.rendering pending) (.error e)) :
    ∃ outer last annot, trail = outer ++ [(last, annot)] ∧ annot.type = merge.target ∧
      merge.reg.DefaultUnresolved annot e := by
  obtain ⟨outer, last, annot, decl, base, rfl, descends⟩ := builds_descends builds
  have keeps := merge.reg.asked_keeps.render element merge.rendering
  refine ⟨outer, last, annot, rfl, descends.own, ?_⟩
  obtain unmapped | ⟨_, _, ⟨_, _, _, _, _, _, _, _, conflict⟩ | ⟨name, value, own, _, failed⟩⟩ :=
    finishWith_error keeps descends.overlaid.distinct h
  · have known := descends.known
    have failed := (unmapped.computes (merge.reg.recallAliasMap_computes _)).symm
    rw [descends.type, ← descends.own] at failed
    cases known.symm.trans (aliasMap_unknown introspection failed)
  · subst conflict
    cases introspection
  · obtain ⟨attr, mem, found, equal⟩ := descends.origin.default (descends.overlaid.default _ _ own)
    obtain ⟨type, values, held, failed⟩ :=
      Rendering.renderWith_error (merge.reg.asked_keeps.renderNested merge.rendering element _) failed
    have explained := Rendering.renderNested_explains
      (Error.traced_of_introspection introspection) failed
    exact ⟨decl, descends.known, attr, mem, value, found, equal, type, values, held,
      explained.unresolved introspection⟩

namespace Engine

variable {engine : Engine}

/-- Where a merge fails for introspection, whatever was called before, its search was over: it had
found a trail whose last annotation leaves at a default what cannot be resolved. -/
theorem merged_introspection_origin (calls : List Call) (key : MergeKey) {e : Error}
    (introspection : e.isIntrospection = true)
    (h : (engine.merged key (engine.run calls {}).2).1 = .error e) :
    ∃ s, s.Sensible engine.reg ∧
      engine.search.Leads key.kind key.type (engine.trail key s) ∧
      ∃ outer last annot, engine.trail key s = outer ++ [(last, annot)] ∧ annot.type = key.type ∧
        engine.reg.DefaultUnresolved annot e := by
  obtain ⟨s, hs, anew⟩ := engine.run_merged calls key
  obtain ⟨leads, ⟨config, _⟩ | ⟨pending, builds, finished⟩⟩ := mergeAnew_failed hs (anew.trans h)
  · exact absurd introspection (Error.not_introspection config)
  · exact ⟨s, hs, leads, Merge.finish_unresolved introspection builds finished⟩

end Engine

section

open Vocabulary

/-- A page has a header by default, of a type that is not registered. Another page gives a header of
that type itself. -/
def Registry.headless : Registry :=
  ((base.addType "test.Page" {
    attrs := [{
      name := "header", type := .annot "test.Header"
      default? := some (.annot "test.Header" []) }] }).addClass "app.Default" {
    annots := [⟨"test.Page", []⟩] }).addClass "app.Given" {
    annots := [⟨"test.Page", [("header", .annot "test.Header" [("text", .text "1")])]⟩] }

end

namespace Engine

/-- The merge of the page on a class, of either kind, its values as they are. -/
def pageOn (kind : SearchKind) (name : String) : MergeKey where
  kind
  element := .classLike name
  type := "test.Page"
  rendering := .raw

theorem headless_merged (kind : SearchKind) :
    ((plain .headless).merged (pageOn kind "app.Default") {}).1 =
      .error (.unknownAnnotType "test.Header") := by
  cases kind with
  | get => exact Outcome.error_of_map (f := fun _ => ()) (by with_unfolding_all decide)
  | find => exact Outcome.error_of_map (f := fun _ => ()) (by with_unfolding_all decide)

/-- A merge of either kind fails for introspection over a default, where the same header given
explicitly leaves the class out. -/
theorem default_not_recovered :
    (Error.unknownAnnotType "test.Header").isIntrospection = true ∧ ∀ kind,
      ((plain .headless).merged (pageOn kind "app.Default") {}).1 =
          .error (.unknownAnnotType "test.Header") ∧
        ((plain .headless).merged (pageOn kind "app.Given") {}).1 = .ok none := by
  refine ⟨by decide, fun kind => ⟨headless_merged kind, ?_⟩⟩
  cases kind with
  | get => with_unfolding_all rfl
  | find => with_unfolding_all rfl

/-- The header that is not registered stands in the page's default. -/
theorem headless_introspection_origin :
    (Error.unknownAnnotType "test.Header").isIntrospection = true ∧
      ∃ s, s.Sensible Registry.headless ∧
        (plain .headless).search.Leads .get "test.Page"
          ((plain .headless).trail (pageOn .get "app.Default") s) ∧
        ∃ outer last annot,
          (plain .headless).trail (pageOn .get "app.Default") s = outer ++ [(last, annot)] ∧
            annot.type = "test.Page" ∧
            Registry.headless.DefaultUnresolved annot (.unknownAnnotType "test.Header") := by
  have introspection : (Error.unknownAnnotType "test.Header").isIntrospection = true := by decide
  exact ⟨introspection,
    merged_introspection_origin [] (pageOn .get "app.Default") introspection (headless_merged .get)⟩

end Engine
end Annotations
