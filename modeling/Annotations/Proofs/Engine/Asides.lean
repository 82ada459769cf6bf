import Annotations.Engine.Requests
import Annotations.Proofs.Action.Closed
import Annotations.Proofs.Search.Parallel

/-!
What goes on beside the tables of results: searches, views and questions about types leave the
tables and their counts as they are and record no look-up in them.
-/
namespace Annotations

open Annotations.Action

variable {σ ρ α β : Type}

/-- Events of the tables of results: look-ups of merged stores and of found annotations. -/
def Event.ofResults : Event → Bool
  | .lookup .merged _ | .lookup .found _ => true
  | _ => false

namespace Search

/-- A step that records no look-up in the tables of results. -/
def Silent (f : Action (Walk σ) α) : Prop :=
  ∀ walk, (f walk).2.events.filter Event.ofResults = walk.events.filter Event.ofResults

namespace Silent

theorem onState (action : Action σ α) : Silent (Walk.onState action) := fun _ => rfl

theorem bind {f : Action (Walk σ) α} {k : α → Action (Walk σ) β} (hf : Silent f)
    (hk : ∀ a, Silent (k a)) : Silent (f >>= k) := by
  intro walk
  rw [bind_apply]
  cases (f walk).1 with
  | ok a => exact (hk a _).trans (hf walk)
  | error e => exact hf walk

theorem pure (a : α) : Silent (Pure.pure a : Action (Walk σ) α) := fun _ => rfl

theorem orElse {f g : Action (Walk σ) (Option ρ)} (hf : Silent f) (hg : Silent g) :
    Silent (Walk.orElse f g) :=
  hf.bind fun found => by
    cases found with
    | none => exact hg
    | some result => exact .pure (some result)

theorem inTurn : Walk.InTurn fun (f _ : Action (Walk σ) (Option ρ)) => Silent f :=
  ⟨.pure none, orElse⟩

theorem enter {element : Element} {f : Action (Walk σ) (Option ρ)} (hf : Silent f) :
    Silent (Walk.visit element (Walk.recover element f)) := by
  intro walk
  unfold Walk.visit
  split
  · rfl
  · have inner := hf { walk with visited := element :: walk.visited }
    simp only [Walk.recover]
    generalize f _ = ends at inner
    obtain ⟨e | result, after⟩ := ends
    · dsimp only
      split
      · exact inner
      · exact inner
    · exact inner

end Silent

theorem hasAnnotatedMethods_silent (search : Search) (name : String) :
    Silent (search.hasAnnotatedMethods name : Action (Walk σ) Bool) := by
  intro walk
  unfold hasAnnotatedMethods
  cases search.settings.cacheEnabled with
  | false => simp [lift_apply]
  | true =>
    simp only [Bool.not_true, Bool.false_eq_true, if_false, bind_apply, get_apply]
    cases walk.interfaces.get? name with
    | some known => rfl
    | none =>
      simp only [bind_apply, modify_apply, lift_apply]
      cases search.reg.hasAnnotatedMethods name <;> rfl

/-- Staying silent goes through all the ways in which a search puts steps together. -/
theorem silent_parallel (search : Search) (keep : Bool) :
    search.Parallel keep keep (fun _ (f _ : Action (Walk σ) (Option ρ)) => Silent f) where
  inTurn _ := Silent.inTurn
  asking {_ outcome _ k l} _ steps := by
    intro walk
    simp only [bind_apply, lift_apply]
    cases outcome with
    | ok a => exact steps a rfl walk
    | error e => rfl
  askingInterface name steps := ((search.caching keep).hasAnnotatedMethods_silent name).bind steps
  enter step := step.enter
  move _ step := step

theorem inAnnots_silent (search : Search) (target : String) (proc : Processor σ ρ)
    {descend : Descend σ ρ} (hd : ∀ element depth, Silent (descend element depth))
    (element : Element) (depth : Nat) (annots : List Annot) :
    Silent (search.inAnnots target proc descend element depth annots) := by
  refine Silent.orElse (Silent.inTurn.firstSome_self fun annot _ => ?_)
    (Silent.inTurn.firstSome_self fun annot _ => ?_)
  · unfold offer
    split
    · exact .onState _
    · exact .pure none
  · refine (hd (.annotType annot.type) (depth + 1)).bind fun found => ?_
    cases found with
    | none => exact .pure none
    | some result => exact (Silent.onState _).bind fun outer => .pure (some outer)

theorem searchFrom_silent (search : Search) (kind : SearchKind) (target : String)
    (proc : Processor σ ρ) (element : Element) (depth : Nat) :
    Silent (search.searchFrom kind target proc element depth) := fun walk =>
  have annotating : Parallel.Annotating search _ _ kind target
      (fun _ (f _ : Action (Walk σ) (Option ρ)) => Silent f) proc proc :=
    fun _ _ hd element depth annots _ => search.inAnnots_silent target proc hd element depth annots
  (search.silent_parallel search.settings.cacheEnabled).searchElement annotating search.fuel element
    depth { walk with visited := [] }

end Search

/-- What an engine has of results: the tables, the counts and the events of look-ups there, latest
first. -/
structure Ledger where
  merged : Table MergeKey (Option Store) := []
  found : Table (Element × String) (Option Annot) := []
  hits : Nat := 0
  misses : Nat := 0
  events : List Event := []

def EngineState.ledger (state : EngineState) : Ledger where
  merged := state.caches.merged
  found := state.caches.found
  hits := state.caches.hits
  misses := state.caches.misses
  events := state.events.filter Event.ofResults

/-- A computation that leaves all that as it is. -/
def Action.Aside (f : Action EngineState α) : Prop := ∀ state, (f state).2.ledger = state.ledger

theorem Action.Aside.closed : Closed (σ := EngineState) Aside where
  pure _ _ := rfl
  throw _ _ := rfl
  bind {_ _ f k} hf hk state := by
    rw [bind_apply]
    cases (f state).1 with
    | ok a => exact (hk a _).trans (hf state)
    | error e => exact hf state

/-- After a computation, one that goes on beside the ledger leaves it as that has. -/
theorem Action.Aside.after {f : Action EngineState α} {k : α → Action EngineState β}
    (h : ∀ a, Aside (k a)) (state : EngineState) : ((f >>= k) state).2.ledger = (f state).2.ledger := by
  rw [bind_apply]
  cases (f state).1 with
  | ok a => exact h a _
  | error e => rfl

namespace Engine

theorem withMemo_aside (f : Action SynthMemo α) : Aside (withMemo f) := fun _ => rfl

theorem searching_aside {enter : EngineState → SynthMemo} {f : Action (Walk SynthMemo) α}
    (h : Search.Silent f) :
    Aside (searching enter (fun memo state => { state with memo }) f) := fun state =>
  congrArg (fun events => { state.ledger with events }) (h _)

theorem searchingWith_aside {start : σ} {f : Action (Walk (SynthMemo × σ)) α}
    (h : Search.Silent f) : Aside (searchingWith start f) := fun state =>
  congrArg (fun events => { state.ledger with events }) (h _)

theorem searchApart_aside {start : σ} {f : Action (Walk σ) α} (h : Search.Silent f) :
    Aside (searchApart start f) := fun state =>
  congrArg (fun events => { state.ledger with events }) (h _)

variable (engine : Engine)

theorem mergeAnew_aside (key : MergeKey) : Aside (engine.mergeAnew key) := by
  refine Aside.closed.bind (searching_aside (engine.search.searchFrom_silent _ _ _ _ _)) fun found => ?_
  cases found with
  | none => exact Aside.closed.pure none
  | some pending => exact Aside.closed.map some (withMemo_aside _)

theorem findAnew_aside (element : Element) (type : String) :
    Aside (engine.findAnew element type) :=
  Aside.closed.bind (searchApart_aside (engine.search.searchFrom_silent _ _ _ _ _)) fun found =>
    Aside.closed.pure found.1

theorem synthesizeAnnot_aside (annot : Option Annot) (element : Option Element) :
    Aside (engine.synthesizeAnnot annot element) := by
  cases annot with
  | none => exact Aside.closed.pure none
  | some annot => exact Aside.closed.map some (withMemo_aside _)

theorem getMetaAnnotTypes_aside (element : Element) (type : String) :
    Aside (engine.getMetaAnnotTypes element type) := by
  unfold getMetaAnnotTypes
  split
  · split
    · exact Aside.closed.throw _
    · exact Aside.closed.pure []
  · exact Aside.closed.pure []
  · exact Aside.closed.bind (searchApart_aside (engine.search.searchFrom_silent _ _ _ _ _)) fun found =>
      Aside.closed.pure found.2

end Engine
end Annotations
