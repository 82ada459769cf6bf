import Annotations.Proofs.Engine.Alike

/-!
What an engine keeps, through any calls: its memo and its answers about interfaces stay right, and
whatever holds of each result from scratch holds of each kept result.
-/
namespace Annotations

open Annotations.Action

variable {α σ : Type}

/-- What is kept about the registry is right. -/
structure EngineState.Sensible (reg : Registry) (state : EngineState) : Prop where
  memo : SynthMemo.Sound reg state.memo
  interfaces : reg.InterfacesSound state.caches.interfaces

/-- What is kept about the registry is right, and kept merges and found annotations are among the
outcomes that two properties allow. -/
structure EngineState.Holds (reg : Registry) (M : MergeKey → Except Error (Option Store) → Prop)
    (F : Element × String → Except Error (Option Annot) → Prop) (state : EngineState) : Prop
    extends state.Sensible reg where
  merged : ∀ key result, state.caches.merged.find? key = some result → M key (.ok result)
  found : ∀ key result, state.caches.found.find? key = some result → F key (.ok result)

/-- A computation that leaves the tables of results as they are. -/
def Action.Quiet (f : Action EngineState α) : Prop :=
  ∀ merged found,
    Keeps (fun s : EngineState => s.caches.merged = merged ∧ s.caches.found = found) f

theorem Action.Quiet.closed : Closed (σ := EngineState) Quiet where
  pure a _ _ := (Keeps.closed _).pure a
  throw e _ _ := (Keeps.closed _).throw e
  bind hf hk merged found := (Keeps.closed _).bind (hf merged found) fun a => hk a merged found

namespace EngineState

variable {reg : Registry}

theorem sensible_empty (reg : Registry) : Sensible reg {} where
  memo := SynthMemo.sound_empty
  interfaces := Registry.InterfacesSound.empty reg

theorem holds_empty (reg : Registry) (M : MergeKey → Except Error (Option Store) → Prop)
    (F : Element × String → Except Error (Option Annot) → Prop) : Holds reg M F {} where
  toSensible := sensible_empty reg
  merged _ _ h := by simp at h
  found _ _ h := by simp at h

theorem Sensible.tied {s : EngineState} (h : s.Sensible reg) :
    Tied reg (fun memo memo' => memo = memo' ∧ SynthMemo.Sound reg memo) s s :=
  ⟨⟨rfl, h.memo⟩, h.interfaces, h.interfaces⟩

theorem Sensible.tied_any {s t : EngineState} (hs : s.Sensible reg) (ht : t.Sensible reg) :
    Tied reg (fun memo memo' => SynthMemo.Sound reg memo ∧ SynthMemo.Sound reg memo') s t :=
  ⟨⟨hs.memo, ht.memo⟩, hs.interfaces, ht.interfaces⟩

/-- What runs alike from one right memo keeps what is kept about the registry right. -/
theorem sensible_of_alike {f g : Action EngineState α}
    (h : Alike (Tied reg fun memo memo' => memo = memo' ∧ SynthMemo.Sound reg memo) f g) :
    Keeps (Sensible reg) f := by
  intro s hs
  have after := (h.outcome hs.tied).2
  exact ⟨after.memo.2, after.interfaces⟩

variable {M : MergeKey → Except Error (Option Store) → Prop}
  {F : Element × String → Except Error (Option Annot) → Prop}

theorem holds_of_quiet {f : Action EngineState α} (sensible : Keeps (Sensible reg) f)
    (quiet : Quiet f) : Keeps (Holds reg M F) f := by
  intro s hs
  obtain ⟨merged, found⟩ := quiet _ _ s ⟨rfl, rfl⟩
  exact ⟨sensible s hs.toSensible, merged ▸ hs.merged, found ▸ hs.found⟩

theorem Holds.lookedUp {s : EngineState} (h : s.Holds reg M F) (cache : CacheName) (hit : Bool) :
    (s.lookedUp cache hit).Holds reg M F := by
  cases hit with
  | true => exact ⟨⟨h.memo, h.interfaces⟩, h.merged, h.found⟩
  | false => exact ⟨⟨h.memo, h.interfaces⟩, h.merged, h.found⟩

end EngineState

namespace Engine

open EngineState

theorem withMemo_bind {β : Type} (f : Action SynthMemo α) (k : α → Action SynthMemo β) :
    withMemo (f >>= k) = withMemo f >>= fun a => withMemo (k a) := by
  funext s
  simp only [withMemo, bind_apply]
  generalize f s.memo = ends
  obtain ⟨outcome, memo⟩ := ends
  cases outcome <;> rfl

theorem withMemo_ok {f : Action SynthMemo α} {a : α} {s s' : EngineState}
    (h : withMemo f s = (.ok a, s')) :
    (f s.memo).1 = .ok a ∧ (f s.memo).2 = s'.memo ∧ s'.caches = s.caches :=
  ⟨congrArg Prod.fst h, congrArg (·.2.memo) h, congrArg (·.2.caches) h.symm⟩

theorem withMemo_quiet (f : Action SynthMemo α) : Quiet (withMemo f) := fun _ _ _ h => h

theorem searching_quiet (enter : EngineState → SynthMemo) (f : Action (Walk SynthMemo) α) :
    Quiet (searching enter (fun memo state => { state with memo }) f) := fun _ _ _ h => h

theorem searchingWith_quiet (start : σ) (f : Action (Walk (SynthMemo × σ)) α) :
    Quiet (searchingWith start f) := fun _ _ _ h => h

theorem searchApart_quiet (start : σ) (f : Action (Walk σ) α) : Quiet (searchApart start f) :=
  fun _ _ _ h => h

variable (engine : Engine)

theorem mergeAnew_quiet (key : MergeKey) : Quiet (engine.mergeAnew key) := by
  refine Quiet.closed.bind (searching_quiet _ _) fun found => ?_
  cases found with
  | none => exact Quiet.closed.pure none
  | some pending => exact Quiet.closed.map some (withMemo_quiet _)

theorem findAnew_quiet (element : Element) (type : String) :
    Quiet (engine.findAnew element type) :=
  Quiet.closed.bind (searchApart_quiet _ _) fun found => Quiet.closed.pure found.1

theorem mergeAnew_sensible (key : MergeKey) :
    Keeps (Sensible engine.reg) (engine.mergeAnew key) :=
  sensible_of_alike (mergeAnew_alike engine.reg.asked_once engine.settings.cacheEnabled
    engine.settings.cacheEnabled key)

theorem findAnew_sensible (element : Element) (type : String) :
    Keeps (Sensible engine.reg) (engine.findAnew element type) :=
  sensible_of_alike (engine.findAnew_alike engine.settings.cacheEnabled
    engine.settings.cacheEnabled element type)

variable {engine}

/-- A property of outcomes that kept results and new ones have is one of all look-ups. -/
theorem remember_holds {κ ν : Type} [DecidableEq κ] {part : Caches.Part κ ν} {key : κ}
    {find : Action EngineState ν} {I : EngineState → Prop} {P : Except Error ν → Prop}
    (counted : ∀ s cache hit, I s → I (s.lookedUp cache hit))
    (known : ∀ s, I s → ∀ result, (part.read s.caches).find? key = some result → P (.ok result))
    (anew : ∀ s, I s → P (find s).1 ∧ I (find s).2)
    (kept : ∀ s result, I s → P (.ok result) →
      I { s with caches := part.write s.caches ((part.read s.caches).set key result) })
    (s : EngineState) (hs : I s) :
    P (engine.remember part key find s).1 ∧ I (engine.remember part key find s).2 := by
  unfold remember
  split
  · simp only [bind_apply, get_apply]
    cases hit : (part.read s.caches).find? key with
    | some result => exact ⟨known s hs result hit, counted s _ _ hs⟩
    | none =>
      simp only [bind_apply, modify_apply]
      obtain ⟨good, after⟩ := anew _ (counted s part.name false hs)
      generalize find (s.lookedUp part.name false) = ends at after good
      obtain ⟨outcome, s'⟩ := ends
      cases outcome with
      | error e => exact ⟨good, after⟩
      | ok result => exact ⟨good, kept s' result after good⟩
  · exact anew s hs

/-- A result that is not kept yet is looked for. -/
theorem remember_of_unkept {κ ν : Type} [DecidableEq κ] {part : Caches.Part κ ν} {key : κ}
    {find : Action EngineState ν} {s : EngineState}
    (unkept : (part.read s.caches).find? key = none) :
    (engine.remember part key find s).1 =
      (find (if engine.settings.cacheEnabled then s.lookedUp part.name false else s)).1 := by
  unfold remember
  split
  · simp only [bind_apply, get_apply, unkept, modify_apply]
    generalize find (s.lookedUp part.name false) = ends
    obtain ⟨outcome, after⟩ := ends
    cases outcome <;> rfl
  · rfl

theorem merged_sensible (key : MergeKey) : Keeps (Sensible engine.reg) (engine.merged key) := by
  intro s hs
  exact (remember_holds (I := Sensible engine.reg) (P := fun _ => True)
    (fun _ _ hit hs => by cases hit <;> exact ⟨hs.memo, hs.interfaces⟩)
    (fun _ _ _ _ => trivial) (fun s hs => ⟨trivial, engine.mergeAnew_sensible key s hs⟩)
    (fun _ _ hs _ => ⟨hs.memo, hs.interfaces⟩) s hs).2

/-- An engine whose merges and found annotations from scratch have a property has it of all merges
and found annotations, if it holds of what is kept. -/
structure Upholds (engine : Engine) (M : MergeKey → Except Error (Option Store) → Prop)
    (F : Element × String → Except Error (Option Annot) → Prop) : Prop where
  merge : ∀ key s, s.Sensible engine.reg → M key (engine.mergeAnew key s).1
  find : ∀ element type s, s.Sensible engine.reg →
    F (element, type) (engine.findAnew element type s).1

variable {M : MergeKey → Except Error (Option Store) → Prop}
  {F : Element × String → Except Error (Option Annot) → Prop}

theorem Upholds.merged (h : engine.Upholds M F) (key : MergeKey) (s : EngineState)
    (hs : s.Holds engine.reg M F) :
    M key (engine.merged key s).1 ∧ (engine.merged key s).2.Holds engine.reg M F := by
  refine remember_holds (I := Holds engine.reg M F) (P := M key)
    (fun _ cache hit hs => hs.lookedUp cache hit) (fun _ hs => hs.merged key) (fun s hs => ?_)
    (fun s result hs good => ?_) s hs
  · exact ⟨h.merge key s hs.toSensible,
      holds_of_quiet (engine.mergeAnew_sensible key) (engine.mergeAnew_quiet key) s hs⟩
  · exact ⟨⟨hs.memo, hs.interfaces⟩, Table.forall_find?_set hs.merged good, hs.found⟩

theorem Upholds.findRaw (h : engine.Upholds M F) (element : Element) (type : String)
    (s : EngineState) (hs : s.Holds engine.reg M F) :
    F (element, type) (engine.findRaw element type s).1 ∧
      (engine.findRaw element type s).2.Holds engine.reg M F := by
  refine remember_holds (I := Holds engine.reg M F) (P := F (element, type))
    (fun _ cache hit hs => hs.lookedUp cache hit) (fun _ hs => hs.found (element, type))
    (fun s hs => ?_) (fun s result hs good => ?_) s hs
  · exact ⟨h.find element type s hs.toSensible,
      holds_of_quiet (engine.findAnew_sensible element type)
        (engine.findAnew_quiet element type) s hs⟩
  · exact ⟨⟨hs.memo, hs.interfaces⟩, hs.merged, Table.forall_find?_set hs.found good⟩

end Engine
end Annotations
