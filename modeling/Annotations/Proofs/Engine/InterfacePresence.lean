import Annotations.Proofs.Engine.DepthLimit
import Annotations.Proofs.Graph.FirstMatch

/-!
Presence on the methods of interfaces. What a method of an interface bears is found from the methods that
implement it wherever look-ups see that interface, so wherever the interfaces above do not fork; where
they fork, the first interface that declares the method hides the others.
-/
namespace Annotations

open Relation (ReflTransGen)

namespace Registry

variable {reg : Registry} {name owner above interface : String} {parameters : List String}
  {decl target : MethodDecl} {there : MethodRef} {annot : Annot}

/-- A method surely leads to the annotated methods that are seen from the interfaces of its class and of
the superclasses. -/
theorem HierarchyKnown.leads_of_sees (known : reg.HierarchyKnown)
    (lands : reg.BridgesLand name parameters) (sees : reg.Sees name parameters interface there)
    (seen : reg.method there = .ok target) (mem : annot ∈ target.annots)
    (declared : reg.method ⟨owner, name, parameters⟩ = .ok decl)
    (inside : above ∈ reg.lineage owner) (next : interface ∈ reg.interfaceGraph.next above) :
    ReflTransGen reg.SurelyLeads ⟨owner, name, parameters⟩ there := by
  induction sees generalizing owner above decl with
  | @first interface there found =>
    obtain ⟨aboveDecl, own, named⟩ := mem_interfaceGraph_next.1 next
    obtain ⟨same, reaches⟩ := (Sees.first found).reached
    rw [same] at seen
    have annotated := known.annotated (known.extended next) reaches seen mem
    have leads : reg.Leads ⟨owner, name, parameters⟩ there :=
      .implemented inside own named ⟨annotated, found⟩
    exact .single ⟨known.unhindered lands declared, leads⟩
  | @beyond interface further found there foundDecl first own' mem' sees ih =>
    obtain ⟨aboveDecl, own, named⟩ := mem_interfaceGraph_next.1 next
    obtain ⟨same, reaches⟩ := (Sees.beyond first own' mem' sees).reached
    have seen' := seen
    rw [same] at seen'
    have annotated := known.annotated (known.extended next) reaches seen' mem
    have leads : reg.Leads ⟨owner, name, parameters⟩ found :=
      .implemented inside own named ⟨annotated, first⟩
    obtain ⟨rfl, rfl, _, declared'⟩ := findInterfaceMethod_some first
    have onward := ih seen declared' (.head _) (mem_interfaceGraph_next.2 ⟨_, own', mem'⟩)
    exact .head ⟨known.unhindered lands declared, leads⟩ onward

end Registry

namespace Engine

variable {engine : Engine} {ref there : MethodRef} {decl target : MethodDecl} {annot : Annot}

/-- What a method bears is found from the methods that surely lead to it, in no level too deep. -/
theorem finds_of_surelyLeads (way : ReflTransGen engine.reg.SurelyLeads ref there)
    (declared : engine.reg.method there = .ok target) (mem : annot ∈ target.annots)
    (plain : engine.settings.isBuiltin annot.type = false) :
    engine.finds .find (.method ref) annot.type = true := by
  rcases engine.finds_sweeps .find (.method ref) annot.type with ⟨_, found⟩ | ⟨⟨met, exhausted⟩, _⟩
  · exact found
  · have met := exhausted.beside rfl exhausted.root way
    have closed := exhausted.closed met (Hunt.not_cuts_method _ there)
    have bears : engine.search.Bears .find (.method there) annot := by
      refine ⟨.inl ⟨target.annots, ?_, mem⟩, plain⟩
      simp only [search, Registry.declaredAnnots, declared]
      rfl
    exact absurd rfl (closed.bare annot bears)

/-- After any calls: an annotation on a method of an interface is found from a method of the same
signature if look-ups see the interface from one that is named on the class or above it; that is so for
each interface above, whether or not those in between redeclare the method, where no interface forks. -/
theorem found_on_interfaces (known : engine.reg.HierarchyKnown)
    (lands : engine.reg.BridgesLand ref.name ref.parameters)
    (declared : engine.reg.method ref = .ok decl) (calls : List Call) {above : String}
    (inside : above = ref.owner ∨ engine.reg.superclassGraph.Reaches ref.owner above) :
    (∀ interface there target annot, interface ∈ engine.reg.interfaceGraph.next above →
      engine.reg.Sees ref.name ref.parameters interface there →
      engine.reg.method there = .ok target → annot ∈ target.annots →
      engine.settings.isBuiltin annot.type = false →
      (engine.hasAnnot (.method ref) annot.type (engine.run calls {}).2).1 = .ok true) ∧
    ((∀ interface, engine.reg.interfaceGraph.Reaches above interface →
        engine.reg.Unforked ref.name ref.parameters interface) →
      ∀ interface target annot, engine.reg.interfaceGraph.Reaches above interface →
        engine.reg.method (ref.onClass interface) = .ok target → annot ∈ target.annots →
        engine.settings.isBuiltin annot.type = false →
        (engine.hasAnnot (.method ref) annot.type (engine.run calls {}).2).1 = .ok true) := by
  have lineage : above ∈ engine.reg.lineage ref.owner := by
    rcases inside with rfl | reaches
    · exact .head _
    · exact Registry.mem_lineage_of_reaches reaches
  have seen (interface : String) (there : MethodRef) (target : MethodDecl) (annot : Annot)
      (next : interface ∈ engine.reg.interfaceGraph.next above)
      (sees : engine.reg.Sees ref.name ref.parameters interface there)
      (seen : engine.reg.method there = .ok target) (mem : annot ∈ target.annots)
      (plain : engine.settings.isBuiltin annot.type = false) :
      (engine.hasAnnot (.method ref) annot.type (engine.run calls {}).2).1 = .ok true := by
    have way := known.leads_of_sees lands sees seen mem declared lineage next
    rw [hasAnnot_run, finds_of_surelyLeads way seen mem plain]
  constructor
  · exact seen
  · intro unforked interface target annot reaches declared' mem plain
    -- the first step leads to an interface that is named, from where look-ups see the other
    have declares := Registry.declares_iff.2 ⟨target, declared'⟩
    cases reaches with
    | step next =>
      refine seen _ _ target annot next ?_ declared' mem plain
      exact .first (known.found_of_declares (known.extended next) declares)
    | cons next way =>
      refine seen _ _ target annot next ?_ declared' mem plain
      refine known.sees_of_reaches (known.extended next) ?_ (.inr way) declares
      rintro start (rfl | further)
      · exact unforked start (.step next)
      · exact unforked start (.cons next further)

end Engine

namespace Registry

/-- A method that bears a note. -/
def noteMethod : MethodDecl := { name := "run", annots := [⟨"test.Note", []⟩] }

/-- Some classes and an interface that declares the method with the note. -/
def withNote (classes : List (String × ClassDecl)) : Registry :=
  (base.addType "test.Note" {}).addClasses <|
    classes ++ [("app.Noted", { kind := .interface, methods := [noteMethod] })]

/-- The interface in between extends another one first that declares the method without a note. -/
def forkedNote : Registry := withNote [
  ("app.Impl", { interfaces := ["app.Joint"], methods := [{ name := "run" }] }),
  ("app.Joint", { kind := .interface, interfaces := ["app.Plain", "app.Noted"] }),
  ("app.Plain", { kind := .interface, methods := [{ name := "run" }] })]

/-- The method is a bridge to one that nobody declares. -/
def unbridgedNote : Registry := withNote [
  ("app.Impl", {
    interfaces := ["app.Noted"]
    methods := [{ name := "run", bridge := some ["text"] }] })]

/-- An interface in between declares the method without a note and extends two others, of which one
leads to the note. -/
def stackedNote : Registry := withNote [
  ("app.Impl", { superclass := some "app.Stand", methods := [{ name := "run" }] }),
  ("app.Stand", { interfaces := ["app.Joint"] }),
  ("app.Joint", {
    kind := .interface
    interfaces := ["app.Side", "app.Middle"]
    methods := [{ name := "run" }] }),
  ("app.Side", { kind := .interface }),
  ("app.Middle", { kind := .interface, interfaces := ["app.Noted"] })]

end Registry

namespace Engine

/-- An engine whose only class has a method that is declared with a note on an interface above, all that
is named being registered. -/
structure NoteAbove (engine : Engine) : Prop where
  complete : engine.reg.complete = true
  declared : ∃ decl, engine.reg.method ⟨"app.Impl", "run", []⟩ = .ok decl
  reaches : engine.reg.interfaceGraph.Reaches "app.Impl" "app.Noted"
  noted : engine.reg.method ⟨"app.Noted", "run", []⟩ = .ok Registry.noteMethod
  plain : engine.settings.isBuiltin "test.Note" = false

/-- A note on an interface above is not found where the ways up fork and it does not come first, nor
from a bridge without a target. -/
theorem notes_hidden :
    (NoteAbove ⟨.forkedNote, {}⟩ ∧
      ((⟨.forkedNote, {}⟩ : Engine).hasAnnot (.method ⟨"app.Impl", "run", []⟩) "test.Note" {}).1 =
        .ok false) ∧
    NoteAbove ⟨.unbridgedNote, {}⟩ ∧
      ((⟨.unbridgedNote, {}⟩ : Engine).hasAnnot (.method ⟨"app.Impl", "run", []⟩) "test.Note" {}).1 =
        .ok false := by
  have forked : NoteAbove ⟨.forkedNote, {}⟩ :=
    ⟨by decide, ⟨_, rfl⟩, .cons (b := "app.Joint") (.head _) (.step (.tail _ (.head _))), rfl, by decide⟩
  have unbridged : NoteAbove ⟨.unbridgedNote, {}⟩ :=
    ⟨by decide, ⟨_, rfl⟩, .step (.head _), rfl, by decide⟩
  exact ⟨⟨forked, by with_unfolding_all decide⟩, unbridged, by with_unfolding_all decide⟩

def stackedNote : Engine := ⟨.stackedNote, {}⟩

/-- Beyond an interface that redeclares the method the note is found, from a subclass too. -/
theorem stackedNote_found_on_interfaces :
    stackedNote.reg.HierarchyKnown ∧ stackedNote.reg.BridgesLand "run" [] ∧
      (∀ interface, stackedNote.reg.Unforked "run" [] interface) ∧
      (stackedNote.hasAnnot (.method ⟨"app.Impl", "run", []⟩) "test.Note" {}).1 = .ok true := by
  have known : stackedNote.reg.HierarchyKnown := .of_classes (by decide)
  have lands : stackedNote.reg.BridgesLand "run" [] := Registry.bridgesLand_of_classes (by decide) _ _
  have unforked : ∀ interface, stackedNote.reg.Unforked "run" [] interface :=
    Registry.unforked_of_single (by decide)
  have declared : stackedNote.reg.method ⟨"app.Impl", "run", []⟩ = .ok { name := "run" } := rfl
  have above : stackedNote.reg.superclassGraph.Reaches "app.Impl" "app.Stand" := .step (.head [])
  have reaches : stackedNote.reg.interfaceGraph.Reaches "app.Stand" "app.Noted" :=
    .cons (b := "app.Joint") (.head []) (.cons (b := "app.Middle") (.tail _ (.head [])) (.step (.head [])))
  obtain ⟨_, found⟩ := found_on_interfaces known lands declared [] (.inr above)
  refine ⟨known, lands, unforked, ?_⟩
  exact found (fun interface _ => unforked interface) "app.Noted" Registry.noteMethod
    ⟨"test.Note", []⟩ reaches rfl (.head []) (by decide)

end Engine
end Annotations
