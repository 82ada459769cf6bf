import Annotations.Proofs.Engine.Calls
import Annotations.Vocabulary.Web

/-!
Keeping results is not visible: over a registry whose alias declarations are valid and whose nested
types are known, every call of every sequence on one engine that keeps results has the outcome of
the same call on a fresh engine that keeps none.
-/
namespace Annotations
namespace Engine

open Annotations.Action EngineState Registry

variable {engine : Engine}

/-- What a merge on a fresh engine that keeps nothing comes to. -/
def freshMerge (engine : Engine) (key : MergeKey) : Except Error (Option Store) :=
  ((engine.caching false).mergeAnew key {}).1

/-- What looking for an annotation on a fresh engine that keeps nothing comes to. -/
def freshFind (engine : Engine) (key : Element × String) : Except Error (Option Annot) :=
  ((engine.caching false).findAnew key.1 key.2 {}).1

/-- Merges and found annotations from scratch never depend on what is kept. -/
theorem upholds_steady (valid : engine.reg.AliasesValid) (known : engine.reg.NestedKnown) :
    engine.Upholds (fun key outcome => outcome = engine.freshMerge key)
      fun key outcome => outcome = engine.freshFind key where
  merge key _ hs := ((mergeAnew_alike (Registry.asked_alike valid known)
    engine.settings.cacheEnabled false key).outcome
    (Sensible.tied_any hs (sensible_empty _))).1
  find element type _ hs := ((engine.findAnew_alike engine.settings.cacheEnabled false element
    type).outcome (Sensible.tied_any hs (sensible_empty _))).1

theorem upholds_fresh (valid : engine.reg.AliasesValid) (known : engine.reg.NestedKnown) :
    (engine.caching true).Upholds (fun key outcome => outcome = engine.freshMerge key)
      fun key outcome => outcome = engine.freshFind key :=
  upholds_steady valid known

/-- States of an engine that keeps results, all of them what a fresh engine comes to. -/
abbrev Faithful (engine : Engine) : EngineState → Prop :=
  Holds engine.reg (fun key outcome => outcome = engine.freshMerge key)
    fun key outcome => outcome = engine.freshFind key

/-- Two computations that run alike on engines, whatever right memos these have. -/
abbrev AlikeAnyhow {α : Type} (engine : Engine) (f g : Action EngineState α) : Prop :=
  Alike (EngineState.Tied engine.reg fun memo memo' =>
    SynthMemo.Sound engine.reg memo ∧ SynthMemo.Sound engine.reg memo') f g

/-- If a result that is looked up has the outcome that finding it has on a fresh engine, so has what
comes of it and runs alike whatever is kept. -/
theorem remember_then {κ ν α : Type} [DecidableEq κ] {part : Caches.Part κ ν} {key : κ}
    {find find' : Action EngineState ν} {k l : ν → Action EngineState α} {s : EngineState}
    (outcome : ((engine.caching true).remember part key find s).1 = (find' {}).1)
    (after : ((engine.caching true).remember part key find s).2.Sensible engine.reg)
    (fresh : (find' {}).2.Sensible engine.reg)
    (hk : ∀ result, engine.AlikeAnyhow (k result) (l result)) :
    (((engine.caching true).remember part key find >>= k) s).1 =
      (((engine.caching false).remember part key find' >>= l) {}).1 := by
  change _ = ((find' >>= l) {}).1
  rw [bind_apply, bind_apply, outcome]
  cases (find' {}).1 with
  | error e => rfl
  | ok result => exact ((hk result).outcome (Sensible.tied_any after fresh)).1

section

variable (valid : engine.reg.AliasesValid) (known : engine.reg.NestedKnown)

include valid known

theorem merged_then {α : Type} {k l : Option Store → Action EngineState α} (key : MergeKey)
    (hk : ∀ found, engine.AlikeAnyhow (k found) (l found)) (s : EngineState)
    (hs : engine.Faithful s) : (((engine.caching true).merged key >>= k) s).1 =
      (((engine.caching false).merged key >>= l) {}).1 := by
  obtain ⟨outcome, after⟩ := (upholds_fresh valid known).merged key s hs
  exact remember_then outcome after.toSensible
    ((engine.caching false).mergeAnew_sensible key {} (sensible_empty _)) hk

theorem findRaw_then {α : Type} {k l : Option Annot → Action EngineState α} (element : Element)
    (type : String) (hk : ∀ found, engine.AlikeAnyhow (k found) (l found)) (s : EngineState)
    (hs : engine.Faithful s) : (((engine.caching true).findRaw element type >>= k) s).1 =
      (((engine.caching false).findRaw element type >>= l) {}).1 := by
  obtain ⟨outcome, after⟩ := (upholds_fresh valid known).findRaw element type s hs
  exact remember_then outcome after.toSensible
    ((engine.caching false).findAnew_sensible element type {} (sensible_empty _)) hk

theorem mergedView_fresh (kind : SearchKind) (element : Element) (type : String) (s : EngineState)
    (hs : engine.Faithful s) :
    ((engine.caching true).mergedView kind element type s).1 =
      ((engine.caching false).mergedView kind element type {}).1 := by
  refine merged_then valid known _ (fun found => ?_) s hs
  cases found with
  | none => exact .pure none
  | some store =>
    exact (withMemo_alike ((Registry.asked_alike valid known).viewStore store type _)).map some

/-- One call on an engine that keeps results has the outcome it has on a fresh one. -/
theorem answer_fresh (call : Call) (s : EngineState) (hs : engine.Faithful s) :
    ((engine.caching true).answer call s).1 = ((engine.caching false).answer call {}).1 := by
  have merge (key : MergeKey) :
      ((Answer.store <$> (engine.caching true).merged key) s).1 =
        ((Answer.store <$> (engine.caching false).merged key) {}).1 := by
    rw [map_eq_pure_bind, map_eq_pure_bind]
    exact merged_then valid known key (fun found => .pure _) s hs
  have view (kind : SearchKind) (element : Element) (type : String) :
      ((Answer.view <$> (engine.caching true).mergedView kind element type) s).1 =
        ((Answer.view <$> (engine.caching false).mergedView kind element type) {}).1 := by
    rw [map_apply, map_apply, mergedView_fresh valid known kind element type s hs]
  have asked := Registry.asked_alike valid known
  have plain (call : Call) (plain : call.touchesResults = false) :
      ((engine.caching true).answer call s).1 = ((engine.caching false).answer call {}).1 :=
    ((answer_alike asked true false call plain).outcome
      (Sensible.tied_any hs.toSensible (sensible_empty _))).1
  cases call with
  | getMerged element type => exact merge _
  | findMerged element type => exact merge _
  | getMergedWith element type rendering => exact merge _
  | findMergedWith element type rendering => exact merge _
  | getMergedView element type => exact view .get element type
  | findMergedView element type => exact view .find element type
  | findAnnot element type =>
    have found : ((engine.caching true).findAnnot element type s).1 =
        ((engine.caching false).findAnnot element type {}).1 :=
      findRaw_then valid known element type (fun found =>
        synthesizeAnnot_alike asked true false _ _) s hs
    change ((Answer.view <$> (engine.caching true).findAnnot element type) s).1 =
      ((Answer.view <$> (engine.caching false).findAnnot element type) {}).1
    rw [map_apply, map_apply, found]
  | clearCaches => rfl
  | _ => exact plain _ rfl

/-- Every call of a run on an engine that keeps results has the outcome it has on a fresh engine
that keeps none. -/
theorem run_outcomes_fresh (calls : List Call) :
    ((engine.caching true).run calls {}).1 =
      calls.map fun call => ((engine.caching false).answer call {}).1 := by
  have from_any : ∀ s : EngineState, engine.Faithful s → ((engine.caching true).run calls s).1 =
      calls.map fun call => ((engine.caching false).answer call {}).1 := by
    induction calls with
    | nil => exact fun s hs => rfl
    | cons call rest ih =>
      intro s hs
      have head := answer_fresh valid known call s hs
      have tail := ih _ ((upholds_fresh valid known).answer call s hs)
      exact congrArg₂ List.cons head tail
  exact from_any {} (holds_empty _ _ _)

end

/-- Merges of every kind, a repeated one after the results are dropped, and questions in between. -/
def webCalls : List Call :=
  [.isSynthesizable "web.Mapping", .getMerged (.classLike "app.UserController") "web.Mapping",
    .findMergedView (.classLike "app.PlainRepository") "web.Transactional",
    .getMerged (.classLike "app.UserController") "web.Mapping", .clearCaches,
    .findAnnot (.method ⟨"app.ServiceImpl", "first", []⟩) "test.Base",
    .allAttributes (.classLike "app.UserController") "web.Mapping",
    .getMerged (.classLike "app.UserController") "web.Mapping"]

theorem web_run_outcomes_fresh :
    Registry.web.AliasesValid ∧ Registry.web.NestedKnown ∧
      ((web.caching true).run webCalls {}).1 =
        webCalls.map fun call => ((web.caching false).answer call {}).1 := by
  have valid : Registry.web.AliasesValid := aliasesValid_of_entries (by with_unfolding_all decide)
  have known : Registry.web.NestedKnown := nestedKnown_of_entries (by with_unfolding_all decide)
  exact ⟨valid, known, run_outcomes_fresh valid known webCalls⟩

end Engine
end Annotations
