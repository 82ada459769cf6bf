import Annotations.Proofs.Engine.Reachability
import Annotations.Proofs.Search.Gathering

/-!
The meta-annotation types of an annotation. With a level for each annotation type they are the
closure of steps from a type to its meta-annotations, and there are none for an annotation that is
neither written on the element nor inherited by it.
-/
namespace Annotations

open Annotations.Action
open Relation (TransGen)

/-- An annotation of a type is written on an element or, where it is a class, inherited by it. -/
def Registry.Carries (reg : Registry) (element : Element) (type : String) : Prop :=
  (∃ annots, reg.declaredAnnots element = .ok annots ∧ type ∈ annots.map (·.type)) ∨
    ∃ name annots, element = .classLike name ∧ reg.inheritedAnnots name = .ok annots ∧
      type ∈ annots.map (·.type)

namespace Engine

variable {engine : Engine} {element : Element} {type : String}

/-- The first annotation of a type is there where some annotation of it is. -/
theorem find?_type_iff {annots : List Annot} :
    (∃ annot, annots.find? (·.type == type) = some annot ∧ annot.type = type) ↔
      type ∈ annots.map (·.type) := by
  constructor
  · rintro ⟨annot, found, same⟩
    exact List.mem_map.2 ⟨annot, List.mem_of_find?_eq_some found, same⟩
  · intro mem
    obtain ⟨other, mem, same⟩ := List.mem_map.1 mem
    have some : (annots.find? (·.type == type)).isSome = true :=
      List.find?_isSome.2 ⟨other, mem, by simpa using same⟩
    obtain ⟨annot, found⟩ := Option.isSome_iff_exists.1 some
    exact ⟨annot, found, by simpa using List.find?_some found⟩

theorem find?_type_none {annots : List Annot} (absent : type ∉ annots.map (·.type)) :
    annots.find? (·.type == type) = none :=
  List.find?_eq_none.2 fun annot mem same =>
    absent (List.mem_map.2 ⟨annot, mem, by simpa using same⟩)

/-- What is written on an element is looked at before what is inherited. -/
theorem presentAnnot_of_written {annots : List Annot} {annot : Annot}
    (known : engine.reg.declaredAnnots element = .ok annots)
    (found : annots.find? (·.type == type) = some annot) :
    engine.presentAnnot element type = .ok (some annot) := by
  simp [presentAnnot, known, found, bind, Except.bind, pure, Except.pure]

theorem presentAnnot_of_unwritten {name : String} {annots : List Annot}
    (known : engine.reg.declaredAnnots (.classLike name) = .ok annots)
    (none : annots.find? (·.type == type) = none) :
    engine.presentAnnot (.classLike name) type =
      (engine.reg.inheritedAnnots name).map (·.find? (·.type == type)) := by
  simp only [presentAnnot, known, none, bind, Except.bind]
  cases engine.reg.inheritedAnnots name <;> rfl

theorem presentAnnot_of_carries (h : engine.reg.Carries element type) :
    ∃ annot, engine.presentAnnot element type = .ok (some annot) ∧ annot.type = type := by
  have declared : ∃ annots, engine.reg.declaredAnnots element = .ok annots := by
    rcases h with ⟨annots, known, _⟩ | ⟨name, annots, rfl, inherited, _⟩
    · exact ⟨annots, known⟩
    · obtain ⟨decl, known, _⟩ := Outcome.bind_ok inherited
      exact ⟨decl.annots, congrArg (·.map ClassDecl.annots) known⟩
  obtain ⟨annots, known⟩ := declared
  by_cases here : type ∈ annots.map (·.type)
  · obtain ⟨annot, found, same⟩ := find?_type_iff.2 here
    exact ⟨annot, presentAnnot_of_written known found, same⟩
  · rcases h with ⟨annots', known', mem⟩ | ⟨name, annots', rfl, inherited, mem⟩
    · cases known.symm.trans known'
      exact absurd mem here
    · obtain ⟨annot, found, same⟩ := find?_type_iff.2 mem
      refine ⟨annot, ?_, same⟩
      rw [presentAnnot_of_unwritten known (find?_type_none here), inherited]
      exact congrArg Except.ok found

theorem presentAnnot_of_not_carries (h : ¬ engine.reg.Carries element type) :
    engine.presentAnnot element type = .ok none ∨
      ∃ e, engine.presentAnnot element type = .error e ∧ e.isConfiguration = false := by
  cases known : engine.reg.declaredAnnots element with
  | error e =>
    refine .inr ⟨e, ?_, engine.reg.declaredAnnots_harmless element e known⟩
    simp [presentAnnot, known, bind, Except.bind]
  | ok annots =>
    have here : annots.find? (·.type == type) = none :=
      find?_type_none fun mem => h (.inl ⟨annots, known, mem⟩)
    cases element with
    | method ref =>
      exact .inl (by simp [presentAnnot, known, here, bind, Except.bind, pure, Except.pure])
    | annotType name =>
      exact .inl (by simp [presentAnnot, known, here, bind, Except.bind, pure, Except.pure])
    | classLike name =>
      rw [presentAnnot_of_unwritten known here]
      cases inherited : engine.reg.inheritedAnnots name with
      | error e => exact .inr ⟨e, rfl, engine.reg.inheritedAnnots_harmless name e inherited⟩
      | ok annots' =>
        refine .inl (congrArg Except.ok (find?_type_none fun mem => h (.inr ?_)))
        exact ⟨name, annots', rfl, inherited, mem⟩

/-- Where there are no more annotation types than levels, whatever an engine knows: the
meta-annotation types of an annotation that an element carries are, each once, those to which one or
more steps lead from its type, none of them to a built-in one. There are none of any other. -/
theorem getMetaAnnotTypes_exact
    (enough : engine.reg.typeNames.length ≤ engine.settings.maxMetaDepth) (state : EngineState)
    (element : Element) (type : String) :
    ∃ types, (engine.getMetaAnnotTypes element type state).1 = .ok types ∧ types.Nodup ∧
      (engine.reg.Carries element type →
        ∀ other, other ∈ types ↔ TransGen engine.search.MetaStep type other) ∧
      (¬ engine.reg.Carries element type → types = []) := by
  by_cases carries : engine.reg.Carries element type
  · obtain ⟨annot, present, rfl⟩ := presentAnnot_of_carries carries
    obtain ⟨walk, ends, once, closure⟩ :=
      engine.search.searchFrom_gathers enough annot.type annot.type (state.walk []) rfl
    have apart : (searchApart [] (engine.search.searchFrom .get annot.type collectTypes
        (.annotType annot.type) 1) state).1 = .ok (none, walk.state) :=
      congrArg (fun ends => ends.1.map (·, ends.2.state)) ends
    refine ⟨walk.state, ?_, once, fun _ => closure, fun no => absurd carries no⟩
    simp only [getMetaAnnotTypes, present, bind_apply, apart]
    rfl
  · refine ⟨[], ?_, .nil, fun yes => absurd yes carries, fun _ => rfl⟩
    rcases presentAnnot_of_not_carries carries with none | ⟨e, failed, harmless⟩
    · simp only [getMetaAnnotTypes, none]
      rfl
    · simp only [getMetaAnnotTypes, failed, harmless, Bool.false_eq_true, if_false]
      rfl

/-- Round the rings a type is among its own meta-annotation types. -/
theorem rings_metaAnnotTypes :
    rings.reg.typeNames.length ≤ rings.settings.maxMetaDepth ∧
      ∃ types, (rings.getMetaAnnotTypes (.classLike "app.Moon") "test.Morning" {}).1 = .ok types ∧
        types.Nodup ∧ "test.Evening" ∈ types ∧ "test.Morning" ∈ types := by
  have enough : rings.reg.typeNames.length ≤ rings.settings.maxMetaDepth := by decide
  obtain ⟨types, result, once, closure, _⟩ :=
    getMetaAnnotTypes_exact enough {} (.classLike "app.Moon") "test.Morning"
  have carries : rings.reg.Carries (.classLike "app.Moon") "test.Morning" :=
    .inl ⟨_, rfl, .head []⟩
  have evening : rings.search.MetaStep "test.Morning" "test.Evening" :=
    ⟨_, rfl, .head [], by decide⟩
  have morning : rings.search.MetaStep "test.Evening" "test.Morning" :=
    ⟨_, rfl, .head [], by decide⟩
  exact ⟨enough, types, result, once, (closure carries _).2 (.single evening),
    (closure carries _).2 (.tail (.single evening) morning)⟩

end Engine
end Annotations
