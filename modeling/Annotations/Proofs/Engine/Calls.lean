import Annotations.Proofs.Engine.Kept

/-!
Calls that look at no kept result work alike with and without kept results; and no call spoils what
an engine keeps.
-/
namespace Annotations

open Annotations.Action EngineState

/-- Calls answered by way of a table of results, or that empty the tables. -/
def Call.touchesResults : Call → Bool
  | .getMerged .. | .findMerged .. | .getMergedWith .. | .findMergedWith .. | .getMergedView ..
  | .findMergedView .. | .findAnnot .. | .clearCaches => true
  | _ => false

namespace Engine

variable {engine : Engine} {R : SynthMemo → SynthMemo → Prop}

theorem getMetaAnnotTypes_alike (keep keep' : Bool) (element : Element) (type : String) :
    Alike (EngineState.Tied engine.reg R) ((engine.caching keep).getMetaAnnotTypes element type)
      ((engine.caching keep').getMetaAnnotTypes element type) := by
  have present (keep : Bool) : (engine.caching keep).presentAnnot element type =
      engine.presentAnnot element type := rfl
  unfold getMetaAnnotTypes
  rw [present keep, present keep']
  cases engine.presentAnnot element type with
  | error e =>
    simp only
    split
    · exact .throw e
    · exact .pure []
  | ok present =>
    cases present with
    | none => exact .pure []
    | some annot =>
      refine (engine.search_alike keep keep' [] .get type collectTypes
        (.annotType annot.type) 1).bind ?_
      exact fun found => .pure found.2

theorem answer_alike (h : engine.reg.Asked fun f => Alike R f f) (keep keep' : Bool) (call : Call)
    (plain : call.touchesResults = false) :
    Alike (EngineState.Tied engine.reg R) ((engine.caching keep).answer call)
      ((engine.caching keep').answer call) := by
  cases call with
  | isAnnotated element type =>
    exact ((engine.search_alike keep keep' () .get type (presence type) element 0).bind
      fun found => .pure found.1.isSome).map _
  | hasAnnot element type =>
    exact ((engine.search_alike keep keep' () .find type (presence type) element 0).bind
      fun found => .pure found.1.isSome).map _
  | hasMetaAnnotTypes element type =>
    exact ((engine.search_alike keep keep' () .get type (metaPresence type) element 0).bind
      fun found => .pure found.1.isSome).map _
  | allAttributes element type => exact (getAllAttributes_alike h keep keep' element type).map _
  | annotAttributes element annot rendering =>
    exact (withMemo_alike (h.annotAttributes element rendering annot)).map _
  | metaAnnotTypes element type => exact (getMetaAnnotTypes_alike keep keep' element type).map _
  | isSynthesizable type => exact (withMemo_alike (h.synthesizable type)).map _
  | _ => cases plain

theorem getMetaAnnotTypes_quiet (engine : Engine) (element : Element) (type : String) :
    Quiet (engine.getMetaAnnotTypes element type) := by
  unfold getMetaAnnotTypes
  split
  · split
    · exact Quiet.closed.throw _
    · exact Quiet.closed.pure []
  · exact Quiet.closed.pure []
  · exact Quiet.closed.bind (searchApart_quiet _ _) fun found => Quiet.closed.pure found.2

theorem answer_quiet (engine : Engine) (call : Call) (plain : call.touchesResults = false) :
    Quiet (engine.answer call) := by
  cases call with
  | isAnnotated element type =>
    exact Quiet.closed.map _ (Quiet.closed.bind (searchApart_quiet _ _) fun found =>
      Quiet.closed.pure found.1.isSome)
  | hasAnnot element type =>
    exact Quiet.closed.map _ (Quiet.closed.bind (searchApart_quiet _ _) fun found =>
      Quiet.closed.pure found.1.isSome)
  | hasMetaAnnotTypes element type =>
    exact Quiet.closed.map _ (Quiet.closed.bind (searchApart_quiet _ _) fun found =>
      Quiet.closed.pure found.1.isSome)
  | allAttributes element type =>
    exact Quiet.closed.map _ (Quiet.closed.bind (searchingWith_quiet _ _) fun found =>
      Quiet.closed.pure found.2)
  | annotAttributes element annot rendering => exact Quiet.closed.map _ (withMemo_quiet _)
  | metaAnnotTypes element type =>
    exact Quiet.closed.map _ (engine.getMetaAnnotTypes_quiet element type)
  | isSynthesizable type => exact Quiet.closed.map _ (withMemo_quiet _)
  | _ => cases plain

variable {M : MergeKey → Except Error (Option Store) → Prop}
  {F : Element × String → Except Error (Option Annot) → Prop}

theorem withMemo_holds {α : Type} {f : Action SynthMemo α} {reg : Registry}
    (h : Keeps (SynthMemo.Sound reg) f) : Keeps (Holds reg M F) (withMemo f) :=
  fun s hs => ⟨⟨h s.memo hs.memo, hs.interfaces⟩, hs.merged, hs.found⟩

/-- No call spoils what an engine keeps. -/
theorem Upholds.answer (h : engine.Upholds M F) (call : Call) :
    Keeps (Holds engine.reg M F) (engine.answer call) := by
  have merged (key : MergeKey) : Keeps (Holds engine.reg M F) (engine.merged key) :=
    fun s hs => (h.merged key s hs).2
  have view (kind : SearchKind) (element : Element) (type : String) :
      Keeps (Holds engine.reg M F) (engine.mergedView kind element type) := by
    refine (Keeps.closed _).bind (merged _) fun found => ?_
    cases found with
    | none => exact (Keeps.closed _).pure none
    | some store =>
      exact (Keeps.closed _).map some (withMemo_holds (engine.reg.asked_keeps.viewStore _ _ _))
  have plain (call : Call) (plain : call.touchesResults = false) :
      Keeps (Holds engine.reg M F) (engine.answer call) :=
    holds_of_quiet
      (sensible_of_alike (answer_alike engine.reg.asked_once engine.settings.cacheEnabled
      engine.settings.cacheEnabled call plain)) (engine.answer_quiet call plain)
  cases call with
  | getMerged element type => exact (Keeps.closed _).map _ (merged _)
  | findMerged element type => exact (Keeps.closed _).map _ (merged _)
  | getMergedWith element type rendering => exact (Keeps.closed _).map _ (merged _)
  | findMergedWith element type rendering => exact (Keeps.closed _).map _ (merged _)
  | getMergedView element type => exact (Keeps.closed _).map _ (view _ _ _)
  | findMergedView element type => exact (Keeps.closed _).map _ (view _ _ _)
  | findAnnot element type =>
    refine (Keeps.closed _).map _ ((Keeps.closed _).bind
      (fun s hs => (h.findRaw _ _ s hs).2) fun found => ?_)
    cases found with
    | none => exact (Keeps.closed _).pure none
    | some annot =>
      exact (Keeps.closed _).map some (withMemo_holds (engine.reg.asked_keeps.viewAnnot _ _))
  | clearCaches =>
    refine (Keeps.closed _).map _ fun s hs => ⟨⟨hs.memo, .empty _⟩, ?_, ?_⟩
    · intro key result hit
      cases hit
    · intro key result hit
      cases hit
  | _ => exact plain _ rfl

/-- What an engine keeps holds after any calls. -/
theorem Upholds.run (h : engine.Upholds M F) (calls : List Call) (s : EngineState)
    (hs : s.Holds engine.reg M F) : (engine.run calls s).2.Holds engine.reg M F := by
  induction calls generalizing s with
  | nil => exact hs
  | cons call rest ih => exact ih _ (h.answer call s hs)

end Engine
end Annotations
