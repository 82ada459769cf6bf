import Annotations.Proofs.Engine.InterfacePresence
import Annotations.Proofs.Search.Ledger
import Annotations.Proofs.Search.Unfiltered

/-!
Interfaces that a search of an engine passes over. Where all classes that are named are registered
and no interface has a superclass, looking at them as well changes nothing: neither what the search
comes to nor what it gives to its processor.
-/
namespace Annotations

open Search EngineState

namespace Engine

variable {σ ρ : Type} {engine : Engine}

/-- Where hierarchies are whole and interfaces have no superclass, whatever an engine was asked
before: a search comes to the same with the interfaces without annotated methods and without them,
however much fuel there is, and its processor is given the same. -/
theorem search_unfiltered (known : engine.reg.HierarchyKnown)
    (rootless : engine.reg.InterfacesRootless) (calls : List Call) (extra : Nat) (kind : SearchKind)
    (target : String) (proc : Processor σ ρ) (start : σ) (element : Element) (depth : Nat) :
    ∃ outcome state log,
      comesTo (engine.search.searchFrom kind target proc element depth)
          ((engine.run calls {}).2.walk start) = (outcome, state) ∧
        comesTo (engine.search.unfilteredFrom extra kind target proc element depth)
          ((engine.run calls {}).2.walk start) = (outcome, state) ∧
        comesTo (engine.search.searchFrom kind target proc.logging element depth)
          ((engine.run calls {}).2.walk (start, [])) = (outcome, state, log) ∧
        comesTo (engine.search.unfilteredFrom extra kind target proc.logging element depth)
          ((engine.run calls {}).2.walk (start, [])) = (outcome, state, log) := by
  have sound := (engine.run_sensible calls).interfaces
  generalize (engine.run calls {}).2 = s at sound
  have unmoved : Unmoved (List Given)
      (engine.search.searchElement kind target proc engine.search.fuel element depth)
      (engine.search.searchElement kind target proc.logging engine.search.fuel element depth) :=
    searchElement_unmoved engine.search.fuel element depth
  obtain ⟨log, logged⟩ := unmoved (s.walk start) []
  have given : comesTo (engine.search.searchFrom kind target proc.logging element depth)
      (s.walk (start, [])) = (_, _, log) :=
    congrArg (fun ends => (ends.1, ends.2.state)) logged
  refine ⟨_, _, log, rfl, ?_, given, ?_⟩
  · exact unfilteredFrom_comesTo known rootless extra element depth (s.walk start) sound
  · exact (unfilteredFrom_comesTo known rootless extra element depth (s.walk (start, [])) sound).trans
      given

end Engine

namespace Registry

/-- An interface comes first that has no annotated method, nor has the one that it and that extend
each other; its method is a bridge to one that nobody declares. -/
def blankBesideNote : Registry := withNote [
  ("app.Impl", { interfaces := ["app.Blank", "app.Noted"], methods := [{ name := "run" }] }),
  ("app.Blank", {
    kind := .interface
    interfaces := ["app.Back"]
    methods := [{ name := "run", bridge := some ["text"] }] }),
  ("app.Back", { kind := .interface, interfaces := ["app.Blank"] })]

end Registry

namespace Engine

def blankBesideNote : Engine := ⟨.blankBesideNote, {}⟩

/-- The note is found and given to the processor once on either way. -/
theorem blankBesideNote_unfiltered :
    blankBesideNote.reg.HierarchyKnown ∧ blankBesideNote.reg.InterfacesRootless ∧
      comesTo (blankBesideNote.search.unfilteredFrom 1 .find "test.Note"
          (presence "test.Note").logging (.method ⟨"app.Impl", "run", []⟩) 0) (walk {} ((), [])) =
        (.ok (some ()), (), [.candidate (.method ⟨"app.Noted", "run", []⟩) ⟨"test.Note", []⟩ 0]) := by
  have known : blankBesideNote.reg.HierarchyKnown := .of_classes (by decide)
  have rootless : blankBesideNote.reg.InterfacesRootless := .of_classes (by decide)
  obtain ⟨outcome, state, log, _, _, logged, unfiltered⟩ := search_unfiltered known rootless [] 1 .find
    "test.Note" (presence "test.Note") () (.method ⟨"app.Impl", "run", []⟩) 0
  refine ⟨known, rootless, unfiltered.trans (logged.symm.trans ?_)⟩
  with_unfolding_all rfl

end Engine
end Annotations
