import Annotations.Engine.Calls
import Annotations.Proofs.Merge.Questions
import Annotations.Proofs.Search.Coupling

/-!
An engine that keeps results and one that does not work alike wherever neither looks at a kept
result: merges from scratch, searches, views and questions about types.
-/
namespace Annotations

open Annotations.Action

variable {σ τ ρ α : Type}

/-- Processors whose results and states stay related are tied as they are. -/
def Coupling.same (R : σ → τ → Prop) : Coupling σ τ ρ ρ where
  rest := R
  result _ r r' s t := r = r' ∧ R s t
  failed _ := R
  passed _ := True

namespace Search

/-- Processors whose steps run alike find alike. -/
theorem couples_same (search : Search) (kind : SearchKind) (target : String) {R : σ → τ → Prop}
    (proc : Processor σ ρ) (proc' : Processor τ ρ)
    (process : ∀ element annot depth,
      Alike R (proc.process element annot depth) (proc'.process element annot depth))
    (postProcess : ∀ element annot result,
      Alike R (proc.postProcess element annot result) (proc'.postProcess element annot result)) :
    search.Couples kind target (.same R) proc proc' where
  process element annot depth _ _ s t hs := by
    have ends := process element annot depth s t hs
    generalize proc.process element annot depth s = left at ends
    generalize proc'.process element annot depth t = right at ends
    cases ends with
    | @ok o o' _ _ fits =>
      obtain ⟨rfl, after⟩ := fits
      cases o with
      | none => exact .ok ⟨trivial, after⟩
      | some r => exact .ok ⟨rfl, after⟩
    | error after =>
      refine .error ?_
      unfold Coupling.stopped
      split
      · exact after
      · exact after
  postProcess element annot result result' _ _ := by
    rintro s t ⟨rfl, hs⟩
    have ends := postProcess element annot result s t hs
    generalize proc.postProcess element annot result s = left at ends
    generalize proc'.postProcess element annot result t = right at ends
    cases ends with
    | ok fits => exact .ok fits
    | error after =>
      refine .error ?_
      unfold Coupling.stopped
      split
      · exact after
      · exact after
  other _ _ := trivial
  move _ _ _ _ _ _ _ same := same

theorem Couples.searchFrom_alike {search : Search} {kind : SearchKind} {target : String}
    {R : σ → τ → Prop} {proc : Processor σ ρ} {proc' : Processor τ ρ}
    (h : search.Couples kind target (.same R) proc proc') (keep keep' : Bool) (element : Element)
    (depth : Nat) :
    Alike (Walk.Tied search.reg R)
      ((search.caching keep).searchFrom kind target proc element depth)
      ((search.caching keep').searchFrom kind target proc' element depth) := by
  intro w w' tied
  have ends := h.searchFrom keep keep' element depth w w' tied
  generalize (search.caching keep).searchFrom kind target proc element depth w = left at ends
  generalize (search.caching keep').searchFrom kind target proc' element depth w' = right at ends
  cases ends with
  | @ok o o' _ _ fits =>
    cases o <;> cases o'
    · exact .ok ⟨rfl, fits.imp And.right⟩
    · exact fits.state.elim
    · exact fits.state.elim
    · obtain ⟨rfl, _⟩ := fits.state
      exact .ok ⟨rfl, fits.imp And.right⟩
  | error fits =>
    refine .error (fits.imp fun after => ?_)
    unfold Coupling.stopped at after
    split at after
    · exact after
    · exact after

/-- What a processor keeps of its state goes through the whole search. -/
theorem searchFrom_keeps {search : Search} {kind : SearchKind} {target : String}
    {proc : Processor σ ρ} {I : σ → Prop}
    (process : ∀ element annot depth, Keeps I (proc.process element annot depth))
    (postProcess : ∀ element annot result, Keeps I (proc.postProcess element annot result))
    (element : Element) (depth : Nat) {walk : Walk σ}
    (interfaces : search.reg.InterfacesSound walk.interfaces) (start : I walk.state) :
    I (search.searchFrom kind target proc element depth walk).2.state := by
  have couples := search.couples_same kind target proc proc
    (fun element annot depth => (process element annot depth).alike)
    fun element annot result => (postProcess element annot result).alike
  have alike := couples.searchFrom_alike search.settings.cacheEnabled search.settings.cacheEnabled
    element depth
  have tied : Walk.Tied search.reg (fun s t => s = t ∧ I s) walk walk :=
    ⟨rfl, interfaces, interfaces, rfl, start⟩
  exact (alike.outcome tied).2.state.2

end Search

/-- Two states of engines over one registry, with right answers about interfaces and memos that are
related. -/
structure EngineState.Tied (reg : Registry) (R : SynthMemo → SynthMemo → Prop)
    (left right : EngineState) : Prop where
  memo : R left.memo right.memo
  interfaces : reg.InterfacesSound left.caches.interfaces
  interfaces' : reg.InterfacesSound right.caches.interfaces

namespace Engine

variable {reg : Registry} {R : SynthMemo → SynthMemo → Prop}

theorem withMemo_alike {f g : Action SynthMemo α} (h : Alike R f g) :
    Alike (EngineState.Tied reg R) (withMemo f) (withMemo g) := by
  intro s t tied
  have ends := h s.memo t.memo tied.memo
  simp only [withMemo]
  generalize f s.memo = left at ends
  generalize g t.memo = right at ends
  cases ends with
  | ok fits => exact .ok ⟨fits.1, fits.2, tied.interfaces, tied.interfaces'⟩
  | error fits => exact .error ⟨fits, tied.interfaces, tied.interfaces'⟩

theorem searching_alike {f g : Action (Walk SynthMemo) α} (h : Alike (Walk.Tied reg R) f g) :
    Alike (EngineState.Tied reg R) (searching (·.memo) (fun memo state => { state with memo }) f)
      (searching (·.memo) (fun memo state => { state with memo }) g) := by
  intro s t tied
  have ends := h { interfaces := s.caches.interfaces, events := s.events, state := s.memo }
    { interfaces := t.caches.interfaces, events := t.events, state := t.memo }
    ⟨rfl, tied.interfaces, tied.interfaces', tied.memo⟩
  simp only [searching]
  generalize f _ = left at ends
  generalize g _ = right at ends
  cases ends with
  | ok fits => exact .ok ⟨fits.1, fits.2.state, fits.2.interfaces, fits.2.interfaces'⟩
  | error fits => exact .error ⟨fits.state, fits.interfaces, fits.interfaces'⟩

theorem searchApart_alike (start : σ) {f g : Action (Walk σ) α} (h : Alike (Walk.Tied reg Eq) f g) :
    Alike (EngineState.Tied reg R) (searchApart start f) (searchApart start g) := by
  intro s t tied
  have ends := h { interfaces := s.caches.interfaces, events := s.events, state := start }
    { interfaces := t.caches.interfaces, events := t.events, state := start }
    ⟨rfl, tied.interfaces, tied.interfaces', rfl⟩
  simp only [searchApart]
  generalize f _ = left at ends
  generalize g _ = right at ends
  cases ends with
  | ok fits =>
    obtain ⟨rfl, after⟩ := fits
    exact .ok ⟨congrArg (Prod.mk _) after.state, tied.memo, after.interfaces, after.interfaces'⟩
  | error after => exact .error ⟨tied.memo, after.interfaces, after.interfaces'⟩

theorem searchingWith_alike (start : σ) {f g : Action (Walk (SynthMemo × σ)) α}
    (h : Alike (Walk.Tied reg fun s t => R s.1 t.1 ∧ s.2 = t.2) f g) :
    Alike (EngineState.Tied reg R) (searchingWith start f) (searchingWith start g) := by
  intro s t tied
  have ends := h { interfaces := s.caches.interfaces, events := s.events, state := (s.memo, start) }
    { interfaces := t.caches.interfaces, events := t.events, state := (t.memo, start) }
    ⟨rfl, tied.interfaces, tied.interfaces', tied.memo, rfl⟩
  simp only [searchingWith]
  generalize f _ = left at ends
  generalize g _ = right at ends
  cases ends with
  | ok fits =>
    obtain ⟨rfl, after⟩ := fits
    exact .ok ⟨congrArg (Prod.mk _) after.state.2, after.state.1, after.interfaces,
      after.interfaces'⟩
  | error after => exact .error ⟨after.state.1, after.interfaces, after.interfaces'⟩

/-- A search whose processor knows nothing of the engine goes the same way on both. -/
theorem search_alike (engine : Engine) (keep keep' : Bool) (start : σ) (kind : SearchKind)
    (target : String) (proc : Processor σ ρ) (element : Element) (depth : Nat) :
    Alike (EngineState.Tied engine.reg R)
      (searchApart start ((engine.caching keep).search.searchFrom kind target proc element depth))
      (searchApart start
        ((engine.caching keep').search.searchFrom kind target proc element depth)) := by
  refine searchApart_alike start ?_
  have same {β : Type} (f : Action σ β) : Alike Eq f f := .of_outcome fun s t h => by
    rw [h]
    exact ⟨rfl, rfl⟩
  have couples := Search.couples_same engine.search kind target proc proc (fun _ _ _ => same _)
    fun _ _ _ => same _
  exact couples.searchFrom_alike keep keep' element depth

theorem findAnew_alike (engine : Engine) (keep keep' : Bool) (element : Element) (type : String) :
    Alike (EngineState.Tied engine.reg R) ((engine.caching keep).findAnew element type)
      ((engine.caching keep').findAnew element type) :=
  (engine.search_alike keep keep' () .find type (firstMatch type) element 0).bind
    fun found => .pure found.1

variable {engine : Engine} (h : engine.reg.Asked fun f => Alike R f f) (keep keep' : Bool)

include h

theorem mergeAnew_alike (key : MergeKey) :
    Alike (EngineState.Tied engine.reg R) ((engine.caching keep).mergeAnew key)
      ((engine.caching keep').mergeAnew key) := by
  let merge : Merge := ⟨engine.reg, key.type, key.rendering⟩
  have asked : merge.reg.Asked fun f => Alike R f f := h
  have couples :=
    Search.couples_same engine.search key.kind key.type merge.processor merge.processor
    (fun _ _ _ => Merge.process_asked asked _ _ _) fun _ _ _ => Merge.override_asked asked _ _ _
  refine (searching_alike (couples.searchFrom_alike keep keep' key.element 0)).bind fun found => ?_
  cases found with
  | none => exact .pure none
  | some pending => exact (withMemo_alike (h.finish _ _ _)).map some

theorem synthesizeAnnot_alike (annot : Option Annot) (element : Option Element) :
    Alike (EngineState.Tied engine.reg R) ((engine.caching keep).synthesizeAnnot annot element)
      ((engine.caching keep').synthesizeAnnot annot element) := by
  cases annot with
  | none => exact .pure none
  | some annot => exact (withMemo_alike (h.viewAnnot annot element)).map some

/-- The attributes collected on both sides are the same. -/
theorem collectAll_alike (element : Element) (annot : Annot) (target : String)
    (rendering : Rendering) (depth : Nat) :
    Alike (fun (s t : SynthMemo × Option MultiStore) => R s.1 t.1 ∧ s.2 = t.2)
      ((collectAll engine.reg target rendering).process element annot depth)
      ((collectAll engine.reg target rendering).process element annot depth) := by
  rintro ⟨memo, found⟩ ⟨memo', found'⟩ ⟨hs, rfl⟩
  have ends := h.annotAttributes element rendering annot memo memo' hs
  simp only [collectAll]
  generalize engine.reg.annotAttributes element rendering annot memo = left at ends
  generalize engine.reg.annotAttributes element rendering annot memo' = right at ends
  split
  · cases ends with
    | ok fits => exact .ok ⟨rfl, fits.2, by rw [fits.1]⟩
    | error after => exact .error ⟨after, rfl⟩
  · exact .ok ⟨rfl, hs, rfl⟩

theorem getAllAttributes_alike (element : Element) (type : String) :
    Alike (EngineState.Tied engine.reg R) ((engine.caching keep).getAllAttributes element type)
      ((engine.caching keep').getAllAttributes element type) := by
  let proc := collectAll engine.reg type engine.settings.rendering
  have couples := Search.couples_same engine.search .get type proc proc
    (fun element annot depth => collectAll_alike h element annot type _ depth)
    (fun _ _ result => .pure result)
  refine (searchingWith_alike none (couples.searchFrom_alike keep keep' element 0)).bind ?_
  exact fun found => .pure found.2

end Engine
end Annotations
