import Annotations.Proofs.Engine.Calls
import Annotations.Proofs.Search.Trail

/-!
The trails of merges: every merge that an engine answers, from its tables or anew, was found or
failed on the trail of a search that some sensible state began.
-/
namespace Annotations

open Annotations.Action SynthMemo

/-- A merge takes the annotations of its type and no others. -/
theorem Merge.processor_picks (merge : Merge) :
    merge.processor.Picks (Sound merge.reg) merge.target where
  process_keeps element annot depth := process_asked merge.reg.asked_keeps element annot depth
  postProcess_keeps element annot pending :=
    override_asked merge.reg.asked_keeps element annot pending
  own element annot depth memo own := by
    simp only [processor, own, beq_self_eq_true, if_true, map_apply]
    cases (merge.reg.retrieve element merge.rendering annot memo).1 with
    | ok pending => exact fun absent => by cases absent
    | error e => exact fun absent => by cases absent
  other element annot depth other := by
    simp only [processor]
    rw [if_neg (by simpa using other)]

namespace Engine

variable {engine : Engine} {key : MergeKey} {s : EngineState}

/-- The merge that a key asks for. -/
def mergeOf (engine : Engine) (key : MergeKey) : Merge where
  reg := engine.reg
  target := key.type
  rendering := key.rendering

/-- The trail on which a merge from scratch is found or fails. -/
def trail (engine : Engine) (key : MergeKey) (state : EngineState) : Trail :=
  (engine.search.searchFrom key.kind key.type (engine.mergeOf key).processor.tracing key.element 0
    { interfaces := state.caches.interfaces, events := state.events,
      state := (state.memo, []) }).2.state.2

/-- A search for a merge ends with what its trail makes of it. -/
theorem mergeSearch_traced (engine : Engine) (key : MergeKey) (hs : s.Sensible engine.reg) :
    Ends (fun found found' => Walk.Tied engine.reg
        ((engine.search.traced key.kind key.type (engine.mergeOf key).processor
          (Sound engine.reg)).found key.element True found found'))
      (fun e => Walk.Tied engine.reg
        ((engine.search.traced key.kind key.type (engine.mergeOf key).processor
          (Sound engine.reg)).stopped e))
      (engine.search.searchFrom key.kind key.type (engine.mergeOf key).processor key.element 0
        { interfaces := s.caches.interfaces, events := s.events, state := s.memo })
      (engine.search.searchFrom key.kind key.type
        (engine.mergeOf key).processor.tracing key.element 0
        { interfaces := s.caches.interfaces, events := s.events, state := (s.memo, []) }) :=
  (engine.search.couples_tracing key.kind (engine.mergeOf key).processor_picks).searchFrom
    engine.settings.cacheEnabled engine.settings.cacheEnabled key.element 0 _ _
    ⟨rfl, hs.interfaces, hs.interfaces, rfl, hs.memo⟩

/-- Where all declarations are sound, the trail does not depend on what is kept. -/
theorem trail_fresh (valid : engine.reg.AliasesValid) (known : engine.reg.NestedKnown)
    (hs : s.Sensible engine.reg) : engine.trail key s = engine.trail key {} := by
  have asked : (engine.mergeOf key).reg.Asked
      fun f => Alike (fun memo memo' => Sound engine.reg memo ∧ Sound engine.reg memo') f f :=
    Registry.asked_alike valid known
  have couples := Search.couples_same engine.search key.kind key.type
    (engine.mergeOf key).processor.tracing (engine.mergeOf key).processor.tracing
    (fun element annot depth =>
      (Merge.process_asked asked element annot depth).beside fun _ => [(element, annot)])
    fun element annot result =>
      (Merge.override_asked asked element annot result).beside fun trail =>
        (element, annot) :: trail
  have run := couples.searchFrom_alike engine.settings.cacheEnabled engine.settings.cacheEnabled
    key.element 0
  have empty := EngineState.sensible_empty engine.reg
  exact (run.outcome
    (s := { interfaces := s.caches.interfaces, events := s.events, state := (s.memo, []) })
    (t := { interfaces := [], events := [], state := ({}, []) })
    ⟨rfl, hs.interfaces, empty.interfaces, ⟨hs.memo, empty.memo⟩, rfl⟩).2.state.2

/-- A merge from scratch is a search and, where it finds something, the last step. -/
theorem mergeAnew_outcome (engine : Engine) (key : MergeKey) (s : EngineState) :
    (engine.mergeAnew key s).1 =
      match engine.search.searchFrom key.kind key.type (engine.mergeOf key).processor key.element 0
        { interfaces := s.caches.interfaces, events := s.events, state := s.memo } with
      | (.error e, _) => .error e
      | (.ok none, _) => .ok none
      | (.ok (some pending), walk) =>
        (engine.reg.finish key.element key.rendering pending walk.state).1.map some := by
  simp only [mergeAnew, mergeOf, bind_apply, searching]
  generalize engine.search.searchFrom _ _ _ _ _ _ = ends
  obtain ⟨outcome, walk⟩ := ends
  cases outcome with
  | error e => rfl
  | ok found =>
    cases found with
    | none => rfl
    | some pending =>
      simp only [map_apply, withMemo]
      rfl

/-- A store merged from scratch is the finished result of its trail. -/
theorem mergeAnew_found {store : Store} (hs : s.Sensible engine.reg)
    (h : (engine.mergeAnew key s).1 = .ok (some store)) :
    engine.search.Leads key.kind key.type (engine.trail key s) ∧ ∃ pending,
      (engine.mergeOf key).processor.Builds (Sound engine.reg) (engine.trail key s) pending ∧
      Yields (Sound engine.reg) (engine.reg.finish key.element key.rendering pending)
        (.ok store) := by
  have ends := engine.mergeSearch_traced key hs
  rw [mergeAnew_outcome] at h
  unfold trail
  generalize engine.search.searchFrom key.kind key.type (engine.mergeOf key).processor key.element 0
    _ = left at h ends
  generalize engine.search.searchFrom key.kind key.type (engine.mergeOf key).processor.tracing
    key.element 0 _ = right at ends ⊢
  cases ends with
  | error => cases h
  | @ok found found' walk walk' fits =>
    cases found <;> cases found'
    · cases h
    · exact fits.state.elim
    · exact fits.state.elim
    · rename_i pending pending'
      obtain ⟨rfl, _, sound, leads, builds, _⟩ := fits.state
      refine ⟨leads, pending, builds, walk.state, sound, ?_⟩
      simp only at h
      cases finished : (engine.reg.finish key.element key.rendering pending walk.state).1 with
      | error e =>
        rw [finished] at h
        cases h
      | ok store' =>
        rw [finished] at h
        cases h
        rfl

/-- An error of a merge from scratch is a configuration error at the first annotation of its trail or
one of the last step. -/
theorem mergeAnew_failed {e : Error} (hs : s.Sensible engine.reg)
    (h : (engine.mergeAnew key s).1 = .error e) :
    engine.search.Leads key.kind key.type (engine.trail key s) ∧
      ((e.isConfiguration = true ∧
        (engine.mergeOf key).processor.Breaks (Sound engine.reg) (engine.trail key s) e) ∨ ∃ pending,
        (engine.mergeOf key).processor.Builds (Sound engine.reg) (engine.trail key s) pending ∧
        Yields (Sound engine.reg) (engine.reg.finish key.element key.rendering pending)
          (.error e)) := by
  have ends := engine.mergeSearch_traced key hs
  have stops := @Search.searchFrom_error _ _ engine.search key.kind key.type
    (engine.mergeOf key).processor key.element 0
    { interfaces := s.caches.interfaces, events := s.events, state := s.memo } e
  rw [mergeAnew_outcome] at h
  unfold trail
  generalize engine.search.searchFrom key.kind key.type (engine.mergeOf key).processor key.element 0
    _ = left at h ends stops
  generalize engine.search.searchFrom key.kind key.type (engine.mergeOf key).processor.tracing
    key.element 0 _ = right at ends ⊢
  cases ends with
  | error fits =>
    cases h
    have config := stops rfl
    have after := fits.state
    rw [Coupling.stopped, if_pos config] at after
    obtain ⟨_, _, leads, breaks⟩ := after
    exact ⟨leads, .inl ⟨config, breaks⟩⟩
  | @ok found found' walk walk' fits =>
    cases found <;> cases found'
    · cases h
    · exact fits.state.elim
    · exact fits.state.elim
    · rename_i pending pending'
      obtain ⟨rfl, _, sound, leads, builds, _⟩ := fits.state
      refine ⟨leads, .inr ⟨pending, builds, walk.state, sound, ?_⟩⟩
      simp only at h
      cases finished : (engine.reg.finish key.element key.rendering pending walk.state).1 with
      | error e' =>
        rw [finished] at h
        cases h
        rfl
      | ok store' =>
        rw [finished] at h
        cases h

theorem upholds_anew (engine : Engine) :
    engine.Upholds
      (fun key outcome => ∃ s, s.Sensible engine.reg ∧ (engine.mergeAnew key s).1 = outcome)
      fun _ _ => True where
  merge _ s hs := ⟨s, hs, rfl⟩
  find _ _ _ _ := trivial

/-- Whatever calls were made before, a merge has an outcome that it has from scratch in some
sensible state. -/
theorem run_merged (engine : Engine) (calls : List Call) (key : MergeKey) :
    ∃ s, s.Sensible engine.reg ∧
      (engine.mergeAnew key s).1 = (engine.merged key (engine.run calls {}).2).1 :=
  (engine.upholds_anew.merged key _
    (engine.upholds_anew.run calls {} (EngineState.holds_empty _ _ _))).1

/-- Whatever calls were made, what is kept about the registry is right. -/
theorem run_sensible (engine : Engine) (calls : List Call) :
    (engine.run calls {}).2.Sensible engine.reg :=
  (engine.upholds_anew.run calls {} (EngineState.holds_empty _ _ _)).toSensible

end Engine
end Annotations
