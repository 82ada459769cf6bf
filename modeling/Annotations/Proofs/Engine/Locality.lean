import Annotations.Proofs.Engine.CacheTransparency
import Annotations.Proofs.Search.Locality

/-!
Local before inherited. Where the annotations of a class and their meta-annotations decide a merge,
nothing declared on a superclass or an interface has a part in it: with the class cut off from all of
them the merge comes to the same, and so it does in any other hierarchy around the class.
-/
namespace Annotations

open Annotations.Action

namespace Engine

variable (engine : Engine)

/-- The same engine over the same annotation types beside other classes. -/
def withClasses (classes : Entries ClassDecl) : Engine :=
  { engine with reg := engine.reg.withClasses classes }

/-- The same engine with a class cut off from its superclass and interfaces. -/
def isolating (name : String) : Engine := { engine with reg := engine.reg.isolating name }

/-- Both merges of a class come to an outcome. -/
def MergesTo (name type : String) (rendering : Rendering) (state : EngineState)
    (outcome : Except Error (Option Store)) : Prop :=
  (engine.getMergedWith (.classLike name) type rendering state).1 = outcome ∧
    (engine.findMergedWith (.classLike name) type rendering state).1 = outcome

variable {engine} {name type : String} {rendering : Rendering} {outcome : Except Error (Option Store)}

/-- Where a merge of a class alone is decided, the merge from scratch in any hierarchy takes the same
steps. -/
theorem mergeAnew_of_decided {classes : Entries ClassDecl}
    (alone : engine.reg.superclasses name = [])
    (own : (engine.withClasses classes).reg.declaredAnnots (.classLike name) =
      engine.reg.declaredAnnots (.classLike name))
    {state : EngineState}
    (decided : (engine.mergeAnew ⟨.get, .classLike name, type, rendering⟩ state).1 ≠ .ok none)
    (kind : SearchKind) :
    (engine.withClasses classes).mergeAnew ⟨kind, .classLike name, type, rendering⟩ state =
      engine.mergeAnew ⟨.get, .classLike name, type, rendering⟩ state := by
  let merge : Merge := ⟨engine.reg, type, rendering⟩
  let start : Walk SynthMemo :=
    { interfaces := state.caches.interfaces, events := state.events, state := state.memo }
  let searches (search : Search) (kind : SearchKind) (proc : Processor SynthMemo Pending) :=
    searching (·.memo) (fun memo state => { state with memo })
      (search.searchFrom kind type proc (.classLike name) 0)
  have search : (searches engine.search .get merge.processor state).1 ≠ .ok none := by
    intro none
    apply decided
    change ((searches engine.search .get merge.processor >>= _) state).1 = _
    rw [bind_apply, none]
    rfl
  have same : searches (engine.withClasses classes).search kind (merge.withClasses classes).processor
      state = searches engine.search .get merge.processor state := by
    rw [Merge.processor_withClasses]
    have alone : engine.search.reg.superclasses name = [] := alone
    have steps : (engine.search.withClasses classes).searchFrom kind type merge.processor
        (.classLike name) 0 start =
          engine.search.searchFrom .get type merge.processor (.classLike name) 0 start :=
      Search.searchFrom_of_decided alone own kind search
    exact congrArg (fun ends : Except Error (Option Pending) × Walk SynthMemo => (ends.1,
      { state with
        memo := ends.2.state
        caches := { state.caches with interfaces := ends.2.interfaces }
        events := ends.2.events })) steps
  have finish : (engine.withClasses classes).reg.finish = engine.reg.finish :=
    Registry.finish_withClasses engine.reg classes
  change (searches _ kind (merge.withClasses classes).processor >>= _) state =
    (searches engine.search .get merge.processor >>= _) state
  rw [bind_apply, bind_apply, same, finish]

/-- Where the merge of a class alone is decided, so are both merges in any hierarchy. -/
theorem mergesTo_of_decided {classes : Entries ClassDecl}
    (alone : engine.reg.superclasses name = [])
    (own : (engine.withClasses classes).reg.declaredAnnots (.classLike name) =
      engine.reg.declaredAnnots (.classLike name))
    (decided : (engine.getMergedWith (.classLike name) type rendering {}).1 = outcome)
    (found : outcome ≠ .ok none) :
    (engine.withClasses classes).MergesTo name type rendering {} outcome := by
  have fresh (engine : Engine) (key : MergeKey) : (engine.merged key {}).1 = (engine.mergeAnew key
      (if engine.settings.cacheEnabled then EngineState.lookedUp {} .merged false else {})).1 :=
    remember_of_unkept rfl
  have steps (kind : SearchKind) :
      ((engine.withClasses classes).merged ⟨kind, .classLike name, type, rendering⟩ {}).1 = outcome := by
    rw [getMergedWith, fresh] at decided
    rw [fresh]
    exact (congrArg Prod.fst (mergeAnew_of_decided alone own (decided ▸ found) kind)).trans decided
  exact ⟨steps .get, steps .find⟩

/-- Over valid declarations merges come to the same after any calls as on a fresh engine. -/
theorem mergesTo_after (valid : engine.reg.AliasesValid) (known : engine.reg.NestedKnown)
    (fresh : engine.MergesTo name type rendering {} outcome) (calls : List Call) :
    engine.MergesTo name type rendering (engine.run calls {}).2 outcome := by
  have upholds := upholds_steady valid known
  have start := EngineState.holds_empty engine.reg
    (fun key outcome => outcome = engine.freshMerge key)
    fun key outcome => outcome = engine.freshFind key
  have same (key : MergeKey) :
      (engine.merged key (engine.run calls {}).2).1 = (engine.merged key {}).1 :=
    (upholds.merged key _ (upholds.run calls {} start)).1.trans (upholds.merged key {} start).1.symm
  exact ⟨(same _).trans fresh.1, (same _).trans fresh.2⟩

/-- Where a get merge of a class, cut off from its superclass and interfaces, gives a store or fails,
get and find merges of the class in its hierarchy come to exactly that: on a fresh engine, over valid
declarations after any calls, and in every hierarchy in which the annotations written on the class
itself are the same. -/
theorem mergesTo_of_isolating
    (decided : ((engine.isolating name).getMergedWith (.classLike name) type rendering {}).1 = outcome)
    (found : outcome ≠ .ok none) :
    engine.MergesTo name type rendering {} outcome ∧
      (engine.reg.AliasesValid → engine.reg.NestedKnown → ∀ calls,
        engine.MergesTo name type rendering (engine.run calls {}).2 outcome) ∧
      ∀ classes, (engine.withClasses classes).reg.declaredAnnots (.classLike name) =
          engine.reg.declaredAnnots (.classLike name) →
        (engine.withClasses classes).MergesTo name type rendering {} outcome := by
  have anywhere (classes : Entries ClassDecl)
      (own : (engine.withClasses classes).reg.declaredAnnots (.classLike name) =
        engine.reg.declaredAnnots (.classLike name)) :
      ((engine.isolating name).withClasses classes).MergesTo name type rendering {} outcome :=
    mergesTo_of_decided (engine.reg.isolating_superclasses name)
      (own.trans (engine.reg.isolating_declaredAnnots name).symm) decided found
  have here : engine.MergesTo name type rendering {} outcome := anywhere engine.reg.classes rfl
  exact ⟨here, fun valid known calls => mergesTo_after valid known here calls, anywhere⟩

/-- A repository whose service annotation sets a shorter time-out than its superclass has. -/
def repositoryTx : Store where
  type := some "web.Transactional"
  values := [("timeout", .long 5), ("read_only", .boolean false)]

/-- The superclass with another time-out. -/
def slowerBase : Entries ClassDecl :=
  web.reg.classes.put "app.BaseRepository"
    { annots := [⟨"web.Transactional", [("timeout", .long 90)]⟩] }

theorem web_mergesTo_of_isolating :
    ((web.isolating "app.UserRepository").getMergedWith (.classLike "app.UserRepository")
      "web.Transactional" {} {}).1 = .ok (some repositoryTx) ∧
      web.MergesTo "app.UserRepository" "web.Transactional" {} {} (.ok (some repositoryTx)) ∧
      web.MergesTo "app.UserRepository" "web.Transactional" {} (web.run webCalls {}).2
        (.ok (some repositoryTx)) ∧
      (web.withClasses slowerBase).MergesTo "app.UserRepository" "web.Transactional" {} {}
        (.ok (some repositoryTx)) := by
  have decided : ((web.isolating "app.UserRepository").getMergedWith
      (.classLike "app.UserRepository") "web.Transactional" {} {}).1 = .ok (some repositoryTx) := by
    with_unfolding_all rfl
  have valid : Registry.web.AliasesValid :=
    Registry.aliasesValid_of_entries (by with_unfolding_all decide)
  have known : Registry.web.NestedKnown :=
    Registry.nestedKnown_of_entries (by with_unfolding_all decide)
  obtain ⟨here, after, anywhere⟩ := mergesTo_of_isolating decided (by simp)
  exact ⟨decided, here, after valid known webCalls, anywhere slowerBase (by with_unfolding_all rfl)⟩

end Engine
end Annotations
