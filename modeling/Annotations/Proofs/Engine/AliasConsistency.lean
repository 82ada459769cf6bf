import Annotations.Proofs.Engine.Trails
import Annotations.Proofs.Merge.Congruence
import Annotations.Proofs.Merge.Overlay
import Annotations.Vocabulary.Web

/-!
Alias groups in stores: over a registry with distinct attribute names and mutual pairs, two
attributes that list each other hold equal values in every store that an engine returns, whichever
of them were given, overridden or left at their default.
-/
namespace Annotations

open Annotations.Action SynthMemo Registry Value

variable {reg : Registry}

/-- Attributes of a type that list each other as aliases hold equal values. -/
def Registry.AliasConsistent (reg : Registry) (type : String) (store : Store) : Prop :=
  ∀ groups, reg.aliasMap type = .ok groups → ∀ a b, b ∈ listed groups a → a ∈ listed groups b →
    ∃ left right, store.get? a = some left ∧ store.get? b = some right ∧ left.same right = true

namespace Registry.Finishes

variable {render : Value → Action SynthMemo Value} {pending : Pending}
  {groups : Entries (List String)}
  {store : Store} {type : String} {decl : AnnotType} {a b : String} {value other : Value}
  (finishes : reg.Finishes render pending groups store) (map : reg.AliasMapOf type decl groups)
  (distinct : reg.DistinctAttrs) (back : reg.PairsMutual)
  (there : b ∈ listed groups a) (here : a ∈ listed groups b)

include finishes map distinct back there here

/-- What was given to an attribute agrees with what an attribute it lists takes from an alias. -/
theorem given_agrees (own : pending.declared.get? a = some value)
    (first : (listed groups b).findSome? pending.declared.get? = some other) :
    value.same other = true := by
  obtain ⟨p, mem, found⟩ := List.exists_of_findSome?_eq_some first
  by_cases itself : p = a
  · subst itself
    cases own.symm.trans found
    exact same_refl value
  · exact finishes.agree a value own p
      (map.listed_trans (back.matched distinct) there mem itself) other found

/-- Two attributes that were given nothing take values that agree from their aliases. -/
theorem shared_agrees (unset : pending.declared.get? b = none)
    (first : (listed groups a).findSome? pending.declared.get? = some value) :
    ∃ other, (listed groups b).findSome? pending.declared.get? = some other ∧
      value.same other = true := by
  obtain ⟨p, mem, found⟩ := List.exists_of_findSome?_eq_some first
  have apart : p ≠ b := by
    rintro rfl
    cases unset.symm.trans found
  have mem := map.listed_trans (back.matched distinct) here mem apart
  cases first' : (listed groups b).findSome? pending.declared.get? with
  | none =>
    have absent := List.findSome?_eq_none_iff.1 first' p mem
    cases absent.symm.trans found
  | some other =>
    refine ⟨other, rfl, ?_⟩
    obtain ⟨q, mem', found'⟩ := List.exists_of_findSome?_eq_some first'
    by_cases one : p = q
    · subst one
      cases found.symm.trans found'
      exact same_refl value
    · rcases map.comparable (back.matched distinct) mem mem' one with before | behind
      · exact same_symm (finishes.agree q other found' p before value found)
      · exact finishes.agree p value found q behind other found'

end Registry.Finishes

namespace Registry

variable {render : Value → Action SynthMemo Value}
  (keeps : ∀ value, Keeps (Sound reg) (render value))

include keeps

variable (distinct : reg.DistinctAttrs) (back : reg.PairsMutual)
  (same : RenderSame reg render render) {element : Element} {pending : Pending} {store : Store}

include distinct back same

/-- In a finished store two attributes that list each other hold equal values. -/
theorem finishWith_consistent (filled : pending.Filled reg)
    (h : Yields (Sound reg) (reg.finishWith render element pending) (.ok store)) :
    reg.AliasConsistent pending.type store := by
  obtain ⟨groups, mapped, finishes⟩ := finishWith_finishes keeps filled.distinct h
  obtain ⟨decl, map⟩ := aliasMapOf_aliasMap mapped
  intro groups' mapped' a b there here
  cases mapped.symm.trans mapped'
  cases left : pending.declared.get? a with
  | some value =>
    refine ⟨value, ?_⟩
    cases right : pending.declared.get? b with
    | some other =>
      exact ⟨other, finishes.given a value left, finishes.given b other right,
        finishes.agree a value left b there other right⟩
    | none =>
      cases first : (listed groups b).findSome? pending.declared.get? with
      | none => exact absurd (List.findSome?_eq_none_iff.1 first a here) (by simp [left])
      | some other =>
        exact ⟨other, finishes.given a value left, finishes.shared b right other first,
          finishes.given_agrees map distinct back there here left first⟩
  | none =>
    cases right : pending.declared.get? b with
    | some other =>
      cases first : (listed groups a).findSome? pending.declared.get? with
      | none => exact absurd (List.findSome?_eq_none_iff.1 first b there) (by simp [right])
      | some value =>
        exact ⟨value, other, finishes.shared a left value first, finishes.given b other right,
          same_symm (finishes.given_agrees map distinct back here there right first)⟩
    | none =>
      cases first : (listed groups a).findSome? pending.declared.get? with
      | some value =>
        obtain ⟨other, first', agree⟩ :=
          finishes.shared_agrees map distinct back there here right first
        exact ⟨value, other, finishes.shared a left value first,
          finishes.shared b right other first', agree⟩
      | none =>
        have alone : (listed groups b).findSome? pending.declared.get? = none := by
          cases first' : (listed groups b).findSome? pending.declared.get? with
          | none => rfl
          | some other =>
            obtain ⟨value, found, _⟩ :=
              finishes.shared_agrees map distinct back here there left first'
            cases first.symm.trans found
        obtain ⟨_, attr, partner, found, found', x, y, own, theirs, equal⟩ := map.partner there
        obtain ⟨value, slot, isDefault⟩ := filled.default_of_undeclared map.known found left
        obtain ⟨other, slot', isDefault'⟩ := filled.default_of_undeclared map.known found' right
        obtain ⟨result, held, made⟩ := finishes.rendered a left first value slot
        obtain ⟨result', held', made'⟩ := finishes.rendered b right alone other slot'
        rw [own] at isDefault
        rw [theirs] at isDefault'
        refine ⟨result, result', held, held', same _ _ _ _ ?_ made made'⟩
        exact same_trans (same_symm isDefault) (same_trans equal isDefault')

end Registry

namespace Engine

variable {engine : Engine}

/-- Every store that an engine returns, as a merge of either kind or for a single annotation, holds
equal values under attributes that list each other as aliases. -/
theorem stores_alias_consistent (distinct : engine.reg.DistinctAttrs)
    (back : engine.reg.PairsMutual) (calls : List Call) :
    (∀ element type rendering store,
      (engine.getMergedWith element type rendering (engine.run calls {}).2).1 = .ok (some store) →
      engine.reg.AliasConsistent type store) ∧
    (∀ element type rendering store,
      (engine.findMergedWith element type rendering (engine.run calls {}).2).1 = .ok (some store) →
      engine.reg.AliasConsistent type store) ∧
    ∀ element annot rendering store,
      (engine.annotAttributes element annot rendering (engine.run calls {}).2).1 = .ok store →
      engine.reg.AliasConsistent annot.type store := by
  have merged (key : MergeKey) (store : Store)
      (h : (engine.merged key (engine.run calls {}).2).1 = .ok (some store)) :
      engine.reg.AliasConsistent key.type store := by
    obtain ⟨s, hs, anew⟩ := engine.run_merged calls key
    obtain ⟨_, pending, builds, finished⟩ := mergeAnew_found hs (anew.trans h)
    obtain ⟨type, filled⟩ := (engine.mergeOf key).builds_filled distinct builds
    have consistent := finishWith_consistent (engine.reg.asked_keeps.render _ _) distinct back
      render_same filled finished
    rw [type] at consistent
    exact consistent
  refine ⟨fun element type rendering store h => merged ⟨.get, element, type, rendering⟩ store h,
    fun element type rendering store h => merged ⟨.find, element, type, rendering⟩ store h,
    fun element annot rendering store h => ?_⟩
  have yields : Yields (Sound engine.reg) (engine.reg.annotAttributes element rendering annot)
    (.ok store) := ⟨_, (engine.run_sensible calls).memo, h⟩
  have keeps := engine.reg.asked_keeps.render element rendering
  obtain ⟨pending, retrieved, finished⟩ := yields.bind_ok (engine.reg.asked_keeps.retrieve _ _ _)
  obtain ⟨type, filled⟩ := retrieveWith_filled keeps distinct retrieved
  rw [← type]
  exact finishWith_consistent keeps distinct back render_same filled finished

/-- A mapping merged from one half of a pair on a composed annotation holds it under both. -/
theorem web_stores_alias_consistent :
    Registry.web.DistinctAttrs ∧ Registry.web.PairsMutual ∧
      ∃ store, (Engine.web.getMergedWith (.classLike "app.Controller") "web.Mapping" .raw
          (Engine.web.run [.isSynthesizable "web.Composed"] {}).2).1 = .ok (some store) ∧
        sameOption (store.get? "value") (some (.text "/api")) = true ∧
        Registry.web.AliasConsistent "web.Mapping" store := by
  have distinct : Registry.web.DistinctAttrs :=
    distinctAttrs_of_entries (by with_unfolding_all decide)
  have back : Registry.web.PairsMutual := pairsMutual_of_entries (by with_unfolding_all decide)
  have all := (@stores_alias_consistent Engine.web distinct back
    [.isSynthesizable "web.Composed"]).1 (.classLike "app.Controller") "web.Mapping" .raw
  have held : sameOption ((Engine.web.getMergedWith (.classLike "app.Controller") "web.Mapping" .raw
      (Engine.web.run [.isSynthesizable "web.Composed"] {}).2).1.toOption.join.bind
        (·.get? "value"))
      (some (.text "/api")) = true := by with_unfolding_all decide
  refine ⟨distinct, back, ?_⟩
  generalize (Engine.web.getMergedWith (.classLike "app.Controller") "web.Mapping" .raw _).1 = found
    at all held ⊢
  match found with
  | .error _ => cases held
  | .ok none => cases held
  | .ok (some merged) => exact ⟨merged, rfl, held, all merged rfl⟩

end Engine
end Annotations
