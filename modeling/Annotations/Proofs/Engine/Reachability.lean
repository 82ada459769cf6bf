import Annotations.Proofs.Engine.Presence
import Annotations.Proofs.Search.Chains
import Annotations.Vocabulary.Web

/-!
Presence is reachability. With enough levels for all annotation types an annotation is present on an
element, or found from a class, where a chain of annotations leads to it; cycles among annotation
types, superclasses and interfaces hide nothing.
-/
namespace Annotations
namespace Engine

variable {engine : Engine} {kind : SearchKind} {element : Element} {type : String}

/-- The search that an engine makes for the presence of a type. -/
def hunt (engine : Engine) (kind : SearchKind) (element : Element) (type : String) : Hunt where
  search := engine.search
  kind := kind
  target := type
  root := element

/-- A search for presence finds an annotation at the end of one of its ways, or leaves none within the
depth limit. -/
theorem finds_sweeps (engine : Engine) (kind : SearchKind) (element : Element) (type : String) :
    ((engine.hunt kind element type).Hits ∧ engine.finds kind element type = true) ∨
      (∃ met, (engine.hunt kind element type).Exhausted met) ∧
        engine.finds kind element type = false := by
  have sound : (engine.hunt kind element type).search.reg.InterfacesSound
      (EngineState.walk {} ()).interfaces := .empty engine.reg
  rcases Hunt.searchFrom_sweeps sound with ⟨hits, found⟩ | ⟨left, none⟩
  · exact .inl ⟨hits, finds_iff.2 found⟩
  · refine .inr ⟨left, Bool.eq_false_iff.2 fun found => ?_⟩
    have found := none.symm.trans (finds_iff.1 found)
    cases found

/-- With a level for each annotation type a search for presence finds all that chains lead to. -/
theorem finds_iff_chain (answered : (engine.hunt kind element type).Answered)
    (enough : engine.reg.typeNames.length ≤ engine.settings.maxMetaDepth) :
    engine.finds kind element type = true ↔
      ∃ base chain, engine.search.Starts kind element base ∧ chain ≠ [] ∧
        engine.search.Climbs kind base chain (.annotType type) := by
  rcases engine.finds_sweeps kind element type with ⟨hits, found⟩ | ⟨⟨met, exhausted⟩, none⟩
  · obtain ⟨base, chain, starts, nonempty, climbs, _⟩ := hits.climbs
    exact ⟨fun _ => ⟨base, chain, starts, nonempty, climbs⟩, fun _ => found⟩
  · refine ⟨fun found => ?_, fun ⟨base, chain, starts, nonempty, climbs⟩ => ?_⟩
    · cases none.symm.trans found
    · exact absurd climbs (exhausted.no_chain answered enough starts nonempty)

theorem finds_iff_climbs (plain : (engine.hunt kind element type).Plain)
    (enough : engine.reg.typeNames.length ≤ engine.settings.maxMetaDepth) :
    engine.finds kind element type = true ↔
      ∃ base chain, engine.search.Stands kind element base ∧ chain ≠ [] ∧
        engine.search.Climbs kind base chain (.annotType type) := by
  rw [finds_iff_chain plain.answered enough]
  constructor
  · rintro ⟨base, chain, starts, leads⟩
    exact ⟨base, chain, starts.of_plain plain, leads⟩
  · rintro ⟨base, chain, stands, leads⟩
    exact ⟨base, chain, .stands stands, leads⟩

/-- Where there are no more annotation types than levels, after any calls: an annotation of a type is
present on an element if some chain of annotations, none of them built in, leads from the element to
the type, and it can be found from a class if one does from there or from a class or interface above.
-/
theorem presence_reachable (enough : engine.reg.typeNames.length ≤ engine.settings.maxMetaDepth)
    (calls : List Call) (type : String) :
    (∀ element, (engine.isAnnotated element type (engine.run calls {}).2).1 = .ok true ↔
      ∃ chain, chain ≠ [] ∧ engine.search.Climbs .get element chain (.annotType type)) ∧
    ∀ name, (engine.hasAnnot (.classLike name) type (engine.run calls {}).2).1 = .ok true ↔
      ∃ above chain, (above = name ∨ engine.reg.hierarchy.Reaches name above) ∧ chain ≠ [] ∧
        engine.search.Climbs .find (.classLike above) chain (.annotType type) := by
  constructor
  · intro element
    have plain : (engine.hunt .get element type).Plain := fun find => by cases find
    rw [isAnnotated_run, Except.ok.injEq, finds_iff_climbs plain enough]
    constructor
    · rintro ⟨base, chain, stands, nonempty, climbs⟩
      cases stands with
      | here => exact ⟨chain, nonempty, climbs⟩
      | above find _ => cases find
    · rintro ⟨chain, nonempty, climbs⟩
      exact ⟨element, chain, .here, nonempty, climbs⟩
  · intro name
    have plain : (engine.hunt .find (.classLike name) type).Plain := fun _ _ => by
      simp [hunt]
    rw [hasAnnot_run, Except.ok.injEq, finds_iff_climbs plain enough]
    constructor
    · rintro ⟨base, chain, stands, nonempty, climbs⟩
      cases stands with
      | here => exact ⟨name, chain, .inl rfl, nonempty, climbs⟩
      | above _ reaches => exact ⟨_, chain, .inr reaches, nonempty, climbs⟩
    · rintro ⟨above, chain, stands, nonempty, climbs⟩
      refine ⟨.classLike above, chain, ?_, nonempty, climbs⟩
      rcases stands with rfl | reaches
      · exact .here
      · exact .above rfl reaches

end Engine

/-- Annotation types, classes and interfaces that lead back to themselves. -/
def Registry.rings : Registry :=
  (base.addTypes [
    ("test.Morning", { metas := [⟨"test.Evening", []⟩] }),
    ("test.Evening", { metas := [⟨"test.Morning", []⟩] })]).addClasses [
    ("app.Tide", { superclass := some "app.Ebb" }),
    ("app.Ebb", { superclass := some "app.Tide", interfaces := ["app.Moon"] }),
    ("app.Moon", {
      kind := .interface
      interfaces := ["app.Moon"]
      annots := [⟨"test.Morning", []⟩] })]

namespace Engine

/-- An engine with a level for each type round the rings. -/
def rings : Engine := ⟨.rings, { maxMetaDepth := 5 }⟩

/-- Round the rings the type of the annotation on its type is found. -/
theorem rings_presence_reachable :
    rings.reg.typeNames.length ≤ rings.settings.maxMetaDepth ∧
      (rings.isAnnotated (.classLike "app.Moon") "test.Evening" {}).1 = .ok true ∧
      (rings.hasAnnot (.classLike "app.Tide") "test.Evening" {}).1 = .ok true := by
  have enough : rings.reg.typeNames.length ≤ rings.settings.maxMetaDepth := by decide
  obtain ⟨present, found⟩ := presence_reachable enough [] "test.Evening"
  have evening (kind : SearchKind) : rings.search.Climbs kind (.classLike "app.Moon")
      ["test.Morning", "test.Evening"] (.annotType "test.Evening") := by
    have first : rings.search.Bears kind (.classLike "app.Moon") ⟨"test.Morning", []⟩ :=
      ⟨.inl ⟨_, rfl, .head []⟩, by decide⟩
    have second : rings.search.Bears kind (.annotType "test.Morning") ⟨"test.Evening", []⟩ :=
      ⟨.inl ⟨_, rfl, .head []⟩, by decide⟩
    exact .up first (.up second .here)
  have above : rings.reg.hierarchy.Reaches "app.Tide" "app.Moon" :=
    .cons (b := "app.Ebb") (.head []) (.step (.head _))
  exact ⟨enough, (present _).2 ⟨_, by simp, evening .get⟩,
    (found _).2 ⟨"app.Moon", _, .inr above, by simp, evening .find⟩⟩

end Engine
end Annotations
