import Annotations.Proofs.Engine.Presence
import Annotations.Proofs.Search.Pruning
import Annotations.Vocabulary.Web

/-!
What a superclass or interface that is not registered costs. Presence over a registry is compared with
presence over the pruned one, where such names are taken out: what is inherited from the classes in
between is lost with a missing superclass, and what is left of a method's search with a missing
interface. Nothing else is.
-/
namespace Annotations
namespace Engine

variable {engine : Engine} {kind : SearchKind} {element : Element} {type : String}

/-- The same engine over the pruned registry. -/
def pruned (engine : Engine) : Engine := { engine with reg := engine.reg.pruned }

theorem walk_beside (engine : Engine) :
    Walk.Beside engine.search.reg (EngineState.walk {} ()) (EngineState.walk {} ()) :=
  ⟨fun _ _ => Iff.rfl, .empty engine.reg, .empty engine.reg.pruned, rfl⟩

theorem finds_pruned (free : Search.Unhindered engine.reg kind element) :
    engine.pruned.finds kind element type = engine.finds kind element type := by
  have free : Search.Unhindered engine.search.reg kind element := free
  have same := Search.searchFrom_pruned kind type (presence type) 0 free engine.walk_beside
  rw [Bool.eq_iff_iff, finds_iff, finds_iff, ← same]
  rfl

theorem finds_get_pruned (found : engine.finds .get element type = true) :
    engine.pruned.finds .get element type = true := by
  refine finds_iff.2 ?_
  exact Search.searchFrom_hides type (presence type) element 0 engine.walk_beside
    (finds_iff.1 found)

/-- After any calls: what is present over a registry is present over the pruned one. On an element that
is no class with an unregistered name among its superclasses it is the other way round too; and what
can be found from an element is the same for each but a method above which an interface is missing. -/
theorem presence_pruned (engine : Engine) (element : Element) (type : String)
    (calls calls' : List Call) :
    ((engine.isAnnotated element type (engine.run calls {}).2).1 = .ok true →
      (engine.pruned.isAnnotated element type (engine.pruned.run calls' {}).2).1 = .ok true) ∧
    ((∀ name, element = .classLike name →
        ∀ above ∈ engine.reg.superclasses name, engine.reg.hasClass above = true) →
      (engine.pruned.isAnnotated element type (engine.pruned.run calls' {}).2).1 =
        (engine.isAnnotated element type (engine.run calls {}).2).1) ∧
    ((∀ ref, element = .method ref → engine.reg.Sheltered ref.owner) →
      (engine.pruned.hasAnnot element type (engine.pruned.run calls' {}).2).1 =
        (engine.hasAnnot element type (engine.run calls {}).2).1) := by
  simp only [isAnnotated_run, hasAnnot_run, Except.ok.injEq]
  refine ⟨finds_get_pruned, fun whole => ?_, fun sheltered => ?_⟩
  · have free : Search.Unhindered engine.reg .get element := by
      cases element with
      | classLike name => exact fun _ => whole name rfl
      | method ref => exact fun find => by cases find
      | annotType name => exact trivial
    exact finds_pruned free
  · have free : Search.Unhindered engine.reg .find element := by
      cases element with
      | classLike name => exact fun get => by cases get
      | method ref => exact fun _ => sheltered ref rfl
      | annotType name => exact trivial
    exact finds_pruned free

end Engine

/-- A class that is named as superclass and as interface is not registered. -/
def Registry.gaps : Registry :=
  (base.addTypes [("test.Audited", { metas := [⟨Marker.inherited, []⟩] })]).addClasses [
    ("app.Base", { superclass := some "app.Missing", annots := [⟨"test.Audited", []⟩] }),
    ("app.Child", { superclass := some "app.Base", methods := [{ name := "run" }] }),
    ("app.Service", {
      kind := .interface
      methods := [{ name := "run", annots := [⟨"test.Audited", []⟩] }] }),
    ("app.Impl", {
      interfaces := ["app.Missing", "app.Service"]
      methods := [{ name := "run" }] }),
    ("app.Worker", {
      superclass := some "app.Missing"
      interfaces := ["app.Service"]
      methods := [{ name := "run" }] })]

namespace Engine

def gaps : Engine := { reg := .gaps }

/-- The missing superclass hides what a class between inherits, and the missing interface what the
one named after it declares. -/
theorem missing_class_hides :
    (gaps.isAnnotated (.classLike "app.Child") "test.Audited" {}).1 = .ok false ∧
      (gaps.pruned.isAnnotated (.classLike "app.Child") "test.Audited" {}).1 = .ok true ∧
      (gaps.hasAnnot (.method ⟨"app.Impl", "run", []⟩) "test.Audited" {}).1 = .ok false ∧
      (gaps.pruned.hasAnnot (.method ⟨"app.Impl", "run", []⟩) "test.Audited" {}).1 = .ok true := by
  with_unfolding_all decide

/-- The missing superclass of the base hides nothing that is declared there, and the one of the worker
nothing of its methods. -/
theorem gaps_presence_pruned :
    (gaps.isAnnotated (.classLike "app.Base") "test.Audited" {}).1 = .ok true ∧
      (gaps.pruned.isAnnotated (.classLike "app.Base") "test.Audited" {}).1 = .ok true ∧
      gaps.reg.Sheltered "app.Worker" ∧
      (gaps.pruned.hasAnnot (.method ⟨"app.Worker", "run", []⟩) "test.Audited" {}).1 =
        (gaps.hasAnnot (.method ⟨"app.Worker", "run", []⟩) "test.Audited" {}).1 := by
  have present : (gaps.isAnnotated (.classLike "app.Base") "test.Audited" {}).1 = .ok true := by
    with_unfolding_all decide
  have start : "app.Worker" ∈ ["app.Worker", "app.Service", "app.Missing"] := .head _
  have sheltered : gaps.reg.Sheltered "app.Worker" :=
    Registry.sheltered_of_closed start (by decide) (by decide)
  obtain ⟨hides, _, _⟩ := presence_pruned gaps (.classLike "app.Base") "test.Audited" [] []
  obtain ⟨_, _, same⟩ :=
    presence_pruned gaps (.method ⟨"app.Worker", "run", []⟩) "test.Audited" [] []
  refine ⟨present, hides present, sheltered, same fun ref own => ?_⟩
  cases own
  exact sheltered

end Engine
end Annotations
