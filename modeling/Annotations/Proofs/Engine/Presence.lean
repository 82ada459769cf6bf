import Annotations.Proofs.Engine.Trails
import Annotations.Proofs.Search.Presence

/-!
Presence, merges and collections agree. Whether an annotation of a type is present has an answer
that never fails and does not depend on earlier calls; where it is no, every merge, every look-up and
every collection of the type comes to nothing, from kept results as from scratch.
-/
namespace Annotations

open Annotations.Action

variable {τ ρ : Type}

/-- The walk that a search of an engine begins with. -/
def EngineState.walk (s : EngineState) (state : τ) : Walk τ where
  interfaces := s.caches.interfaces
  events := s.events
  state := state

namespace Engine

open EngineState

variable {engine : Engine} {kind : SearchKind} {element : Element} {type : String}
  {s : EngineState}

theorem presence_actsOn (target : String) : (presence target).ActsOn target := by
  intro element annot depth other
  simp [presence, other]

theorem metaPresence_actsOn (target : String) : (metaPresence target).ActsOn target := by
  intro element annot depth other
  simp [metaPresence, other]

theorem firstMatch_actsOn (target : String) : (firstMatch target).ActsOn target := by
  intro element annot depth other
  simp [firstMatch, other]

theorem collectAll_actsOn (reg : Registry) (target : String) (rendering : Rendering) :
    (collectAll reg target rendering).ActsOn target := by
  intro element annot depth other
  funext ⟨memo, found⟩
  simp [collectAll, other]

/-- Whether a search that knows nothing yet meets an annotation of a type. -/
def finds (engine : Engine) (kind : SearchKind) (element : Element) (type : String) : Bool :=
  match (engine.search.searchFrom kind type (presence type) element 0 (walk {} ())).1 with
  | .ok (some _) => true
  | _ => false

theorem finds_iff : engine.finds kind element type = true ↔
    (engine.search.searchFrom kind type (presence type) element 0 (walk {} ())).1 =
      .ok (some ()) := by
  unfold finds
  split
  · rename_i found
    simp [found]
  · rename_i other
    simp only [Bool.false_eq_true, false_iff]
    exact other ()

/-- A search for presence has one answer, whatever is known from earlier calls. -/
theorem presence_outcome (kind : SearchKind) (element : Element) (type : String)
    (hs : s.Sensible engine.reg) :
    (engine.search.searchFrom kind type (presence type) element 0 (s.walk ())).1 =
      .ok (if engine.finds kind element type then some () else none) := by
  have acts := presence_actsOn type
  have here : engine.search.reg.InterfacesSound (s.walk ()).interfaces := hs.interfaces
  have blank : engine.search.reg.InterfacesSound (walk {} ()).interfaces := .empty engine.reg
  unfold finds
  rcases engine.search.presence_settles kind acts element 0 here blank with
    found | ⟨absent, other, -⟩
  · rcases engine.search.presence_settles kind acts element 0 blank here with
      found' | ⟨-, other, -⟩
    · simp [found, found']
    · exact absurd (found.symm.trans other) (by simp)
  · simp [absent, other]

/-- Where nothing is present, a search that acts on the type alone comes to nothing. -/
theorem absent_outcome {proc : Processor τ ρ} (acts : proc.ActsOn type)
    (absent : engine.finds kind element type = false) (hs : s.Sensible engine.reg) (state : τ) :
    (engine.search.searchFrom kind type proc element 0 (s.walk state)).1 = .ok none ∧
      (engine.search.searchFrom kind type proc element 0 (s.walk state)).2.state = state := by
  have here : engine.search.reg.InterfacesSound (s.walk ()).interfaces := hs.interfaces
  have there : engine.search.reg.InterfacesSound (s.walk state).interfaces := hs.interfaces
  have outcome := presence_outcome kind element type hs
  rcases engine.search.presence_settles kind acts element 0 here there with
    found | ⟨-, nothing⟩
  · simp [found, absent] at outcome
  · exact nothing

theorem searchApart_outcome {α : Type} (start : τ) (f : Action (Walk τ) α) (s : EngineState) :
    (searchApart start f s).1 = (f (s.walk start)).1.map (·, (f (s.walk start)).2.state) := rfl

theorem searchingWith_outcome {α : Type} (start : τ) (f : Action (Walk (SynthMemo × τ)) α)
    (s : EngineState) : (searchingWith start f s).1 =
      (f (s.walk (s.memo, start))).1.map (·, (f (s.walk (s.memo, start))).2.state.2) := rfl

theorem isAnnotated_outcome (element : Element) (type : String) (hs : s.Sensible engine.reg) :
    (engine.isAnnotated element type s).1 = .ok (engine.finds .get element type) := by
  have outcome := presence_outcome .get element type hs
  simp only [isAnnotated, bind_apply, searchApart_outcome, outcome]
  cases engine.finds .get element type <;> rfl

theorem hasAnnot_outcome (element : Element) (type : String) (hs : s.Sensible engine.reg) :
    (engine.hasAnnot element type s).1 = .ok (engine.finds .find element type) := by
  have outcome := presence_outcome .find element type hs
  simp only [hasAnnot, bind_apply, searchApart_outcome, outcome]
  cases engine.finds .find element type <;> rfl

section

variable (absent : engine.finds .get element type = false) (hs : s.Sensible engine.reg)

include absent hs

theorem hasMetaAnnotTypes_absent : (engine.hasMetaAnnotTypes element type s).1 = .ok false := by
  have outcome := (absent_outcome (metaPresence_actsOn type) absent hs ()).1
  simp only [hasMetaAnnotTypes, bind_apply, searchApart_outcome, outcome]
  rfl

theorem getAllAttributes_absent : (engine.getAllAttributes element type s).1 = .ok none := by
  have acts := collectAll_actsOn engine.reg type engine.settings.rendering
  obtain ⟨outcome, kept⟩ := absent_outcome acts absent hs (s.memo, none)
  simp only [getAllAttributes, bind_apply, searchingWith_outcome, outcome, kept]
  rfl

end

theorem findAnew_absent (absent : engine.finds .find element type = false)
    (hs : s.Sensible engine.reg) : (engine.findAnew element type s).1 = .ok none := by
  have outcome := (absent_outcome (firstMatch_actsOn type) absent hs ()).1
  simp only [findAnew, bind_apply, searchApart_outcome, outcome]
  rfl

theorem mergeAnew_absent {key : MergeKey}
    (absent : engine.finds key.kind key.element key.type = false) (hs : s.Sensible engine.reg) :
    (engine.mergeAnew key s).1 = .ok none := by
  have picks := (engine.mergeOf key).processor_picks
  have acts : (engine.mergeOf key).processor.ActsOn key.type := picks.other
  have outcome := (absent_outcome acts absent hs s.memo).1
  simp only [walk] at outcome
  rw [mergeAnew_outcome]
  generalize engine.search.searchFrom _ _ _ _ _ _ = ends at outcome ⊢
  obtain ⟨_, walk⟩ := ends
  cases outcome
  rfl

/-- Kept results come to nothing where nothing is present, like those from scratch. -/
theorem upholds_absent (engine : Engine) :
    engine.Upholds
      (fun key outcome => engine.finds key.kind key.element key.type = false → outcome = .ok none)
      fun key outcome => engine.finds .find key.1 key.2 = false → outcome = .ok none where
  merge _ _ hs absent := mergeAnew_absent absent hs
  find _ _ _ hs absent := findAnew_absent absent hs

theorem isAnnotated_run (engine : Engine) (calls : List Call) (element : Element) (type : String) :
    (engine.isAnnotated element type (engine.run calls {}).2).1 =
      .ok (engine.finds .get element type) :=
  isAnnotated_outcome element type (engine.run_sensible calls)

theorem hasAnnot_run (engine : Engine) (calls : List Call) (element : Element) (type : String) :
    (engine.hasAnnot element type (engine.run calls {}).2).1 =
      .ok (engine.finds .find element type) :=
  hasAnnot_outcome element type (engine.run_sensible calls)

/-- After any calls, a type that is not present comes to nothing in every get search. -/
theorem get_absent (absent : engine.finds .get element type = false) (calls : List Call) :
    (engine.isAnnotated element type (engine.run calls {}).2).1 = .ok false ∧
      (∀ rendering,
        (engine.getMergedWith element type rendering (engine.run calls {}).2).1 = .ok none) ∧
      (engine.getAllAttributes element type (engine.run calls {}).2).1 = .ok none ∧
      (engine.hasMetaAnnotTypes element type (engine.run calls {}).2).1 = .ok false := by
  have kept := engine.upholds_absent.run calls {} (holds_empty _ _ _)
  refine ⟨?_, fun rendering => ?_, ?_, ?_⟩
  · rw [isAnnotated_run, absent]
  · have merged := engine.upholds_absent.merged ⟨.get, element, type, rendering⟩ _ kept
    exact merged.1 absent
  · exact getAllAttributes_absent absent (engine.run_sensible calls)
  · exact hasMetaAnnotTypes_absent absent (engine.run_sensible calls)

/-- A type that cannot be found comes to nothing in every find search. -/
theorem find_absent (absent : engine.finds .find element type = false) (calls : List Call) :
    (engine.hasAnnot element type (engine.run calls {}).2).1 = .ok false ∧
      (∀ rendering,
        (engine.findMergedWith element type rendering (engine.run calls {}).2).1 = .ok none) ∧
      (engine.findAnnot element type (engine.run calls {}).2).1 = .ok none := by
  have kept := engine.upholds_absent.run calls {} (holds_empty _ _ _)
  refine ⟨?_, fun rendering => ?_, ?_⟩
  · rw [hasAnnot_run, absent]
  · have merged := engine.upholds_absent.merged ⟨.find, element, type, rendering⟩ _ kept
    exact merged.1 absent
  · have nothing := (engine.upholds_absent.findRaw element type _ kept).1 absent
    simp only [findAnnot, bind_apply, nothing]
    rfl

/-- After any calls, whether a type is present has an answer, always the same one; where it is no,
merges of every rendering and collections of the type, get and find alike, come to nothing. -/
theorem presence_agrees (engine : Engine) (element : Element) (type : String) :
    ((∀ calls, (engine.isAnnotated element type (engine.run calls {}).2).1 = .ok true) ∨
      ∀ calls,
        (engine.isAnnotated element type (engine.run calls {}).2).1 = .ok false ∧
        (∀ rendering,
          (engine.getMergedWith element type rendering (engine.run calls {}).2).1 = .ok none) ∧
        (engine.getAllAttributes element type (engine.run calls {}).2).1 = .ok none ∧
        (engine.hasMetaAnnotTypes element type (engine.run calls {}).2).1 = .ok false) ∧
    ((∀ calls, (engine.hasAnnot element type (engine.run calls {}).2).1 = .ok true) ∨
      ∀ calls,
        (engine.hasAnnot element type (engine.run calls {}).2).1 = .ok false ∧
        (∀ rendering,
          (engine.findMergedWith element type rendering (engine.run calls {}).2).1 = .ok none) ∧
        (engine.findAnnot element type (engine.run calls {}).2).1 = .ok none) := by
  constructor
  · cases present : engine.finds .get element type with
    | true =>
      left
      intro calls
      rw [isAnnotated_run, present]
    | false => exact .inr (get_absent present)
  · cases present : engine.finds .find element type with
    | true =>
      left
      intro calls
      rw [hasAnnot_run, present]
    | false => exact .inr (find_absent present)

end Engine
end Annotations
