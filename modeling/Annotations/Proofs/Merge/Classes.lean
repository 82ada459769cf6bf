import Annotations.Engine

/-!
Aliases, views and merges look at annotation types only: beside other classes each of their
computations is the same.
-/
namespace Annotations

namespace Registry

variable (reg : Registry) (classes : Entries ClassDecl)

/-- The same annotation types beside other classes. -/
def withClasses : Registry := { reg with classes }

theorem recallLink_withClasses : (reg.withClasses classes).recallLink = reg.recallLink := rfl

theorem recallChainFrom_withClasses :
    (reg.withClasses classes).recallChainFrom = reg.recallChainFrom := by
  funext bound seen link
  induction bound generalizing seen link with
  | zero => rfl
  | succ bound ih =>
    simp only [recallChainFrom, ih]
    rfl

theorem recallChain_withClasses : (reg.withClasses classes).recallChain = reg.recallChain := by
  funext link
  simp only [recallChain, recallChainFrom_withClasses]
  rfl

theorem recallImplicit_withClasses :
    (reg.withClasses classes).recallImplicit = reg.recallImplicit := by
  funext type attr link others
  induction others with
  | nil => rfl
  | cons other rest ih =>
    simp only [recallImplicit, ih, recallChain_withClasses, recallLink_withClasses]

theorem recallAliasNames_withClasses :
    (reg.withClasses classes).recallAliasNames = reg.recallAliasNames := by
  funext type attr
  simp only [recallAliasNames, recallImplicit_withClasses, recallLink_withClasses]
  rfl

theorem recallOverrideName_withClasses :
    (reg.withClasses classes).recallOverrideName = reg.recallOverrideName := by
  funext type attr target
  simp only [recallOverrideName, recallChain_withClasses, recallLink_withClasses]

theorem recallAliasMapOf_withClasses :
    (reg.withClasses classes).recallAliasMapOf = reg.recallAliasMapOf := by
  funext type found attrs
  induction attrs generalizing found with
  | nil => rfl
  | cons attr rest ih => simp only [recallAliasMapOf, ih, recallAliasNames_withClasses]

theorem recallAliasMap_withClasses :
    (reg.withClasses classes).recallAliasMap = reg.recallAliasMap := by
  funext type
  simp only [recallAliasMap, recallAliasMapOf_withClasses]
  rfl

theorem isSynthesizable_withClasses :
    (reg.withClasses classes).isSynthesizable = reg.isSynthesizable := by
  with_unfolding_all rfl

theorem viewAnnot_withClasses : (reg.withClasses classes).viewAnnot = reg.viewAnnot := by
  funext annot element
  simp only [viewAnnot, isSynthesizable_withClasses, recallAliasMap_withClasses]
  rfl

theorem viewStore_withClasses : (reg.withClasses classes).viewStore = reg.viewStore := by
  funext store name element
  simp only [viewStore, recallAliasMap_withClasses]
  rfl

theorem materialize_withClasses : (reg.withClasses classes).materialize = reg.materialize := by
  funext element bound source type
  induction bound generalizing source type with
  | zero => rfl
  | succ bound ih =>
    unfold materialize
    have nested :
        (reg.withClasses classes).materialize element bound = reg.materialize element bound :=
      funext fun source => funext (ih source)
    rw [viewAnnot_withClasses, viewStore_withClasses, nested]

theorem finishWith_withClasses : (reg.withClasses classes).finishWith = reg.finishWith := by
  funext render element pending
  simp only [finishWith, recallAliasMap_withClasses]

theorem renderNested_withClasses (rendering : Rendering) :
    rendering.renderNested (reg.withClasses classes) = rendering.renderNested reg := by
  funext element bound annot
  induction bound generalizing annot with
  | zero => rfl
  | succ bound ih =>
    unfold Rendering.renderNested
    rw [finishWith_withClasses, materialize_withClasses, funext ih]
    rfl

theorem render_withClasses : (reg.withClasses classes).render = reg.render := by
  funext element rendering value
  simp only [render, renderNested_withClasses]
  rfl

theorem retrieve_withClasses : (reg.withClasses classes).retrieve = reg.retrieve := by
  funext element rendering annot
  simp only [retrieve, render_withClasses]
  rfl

theorem finish_withClasses : (reg.withClasses classes).finish = reg.finish := by
  funext element rendering pending
  simp only [finish, render_withClasses, finishWith_withClasses]

end Registry

open Registry

theorem View.attr_withClasses (view : View) (reg : Registry) (classes : Entries ClassDecl) :
    view.attr (reg.withClasses classes) = view.attr reg := by
  funext name
  simp only [View.attr, materialize_withClasses]
  rfl

namespace Merge

variable (merge : Merge) (classes : Entries ClassDecl)

/-- The same merge beside other classes. -/
def withClasses : Merge := { merge with reg := merge.reg.withClasses classes }

theorem writeAll_withClasses : (merge.withClasses classes).writeAll = merge.writeAll := by
  funext element view source targets pending
  simp only [writeAll, withClasses, View.attr_withClasses, render_withClasses]

theorem overlay_withClasses : (merge.withClasses classes).overlay = merge.overlay := by
  have named : (merge.withClasses classes).reg.recallOverrideName = merge.reg.recallOverrideName :=
    recallOverrideName_withClasses merge.reg classes
  funext element view groups attrs written pending
  induction attrs generalizing written pending with
  | nil => rfl
  | cons attr rest ih => simp only [overlay, ih, writeAll_withClasses, named]

theorem processor_withClasses : (merge.withClasses classes).processor = merge.processor := by
  unfold Merge.processor Merge.override
  simp only [overlay_withClasses]
  simp only [withClasses, retrieve_withClasses, viewAnnot_withClasses, recallAliasMap_withClasses]

end Merge
end Annotations
