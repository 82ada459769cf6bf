import Annotations.Proofs.Merge.Classes
import Annotations.Proofs.Search.Unfiltered

/-!
What a class has of its own comes before all that its superclasses and interfaces have. A search from
a class first looks at the annotations written there and at everything above their types, and up to
that point it asks nothing else of the classes. So where a search from the class standing alone ends
in a result or fails, get and find searches over any hierarchy take the same steps to the same end.
-/
namespace Annotations

open Annotations.Action

variable {σ ρ : Type}

theorem Entries.get?_adjust {α : Type} (change : α → α) (entries : Entries α) (name : String) :
    Entries.get? (entries.map fun entry =>
      (entry.1, if entry.1 = name then change entry.2 else entry.2)) name =
      (entries.get? name).map change := by
  induction entries with
  | nil => rfl
  | cons entry rest ih =>
    obtain ⟨key, value⟩ := entry
    rw [List.map_cons, Entries.get?_cons, Entries.get?_cons, ih]
    split <;> simp_all

/-- The same class with no superclass and no interfaces. -/
def ClassDecl.alone (decl : ClassDecl) : ClassDecl := { decl with superclass := none, interfaces := [] }

namespace Registry

variable (reg : Registry) (name : String)

/-- The registry in which a class has no superclass and no interfaces. -/
def isolating : Registry :=
  reg.withClasses <| reg.classes.map fun entry =>
    (entry.1, if entry.1 = name then entry.2.alone else entry.2)

theorem isolating_classDecl :
    (reg.isolating name).classDecl name = (reg.classDecl name).map ClassDecl.alone := by
  unfold classDecl isolating withClasses
  rw [Entries.get?_adjust]
  cases reg.classes.get? name <;> rfl

theorem isolating_declaredAnnots :
    (reg.isolating name).declaredAnnots (.classLike name) = reg.declaredAnnots (.classLike name) := by
  simp only [declaredAnnots, isolating_classDecl]
  cases reg.classDecl name <;> rfl

theorem isolating_superclasses : (reg.isolating name).superclasses name = [] := by
  rw [superclasses_eq, classGraph_next, isolating_classDecl]
  cases reg.classDecl name with
  | error e => rw [Except.map, Graph.preorder]
  | ok decl => exact Graph.preorder.eq_1 _ _

end Registry

theorem Walk.orElse_of_decided {f g : Action (Walk σ) (Option ρ)} {walk : Walk σ}
    (decided : (f walk).1 ≠ .ok none) : Walk.orElse f g walk = f walk := by
  simp only [Walk.orElse, bind_apply]
  generalize f walk = ends at decided
  obtain ⟨outcome, after⟩ := ends
  cases outcome with
  | error e => rfl
  | ok found =>
    cases found with
    | none => exact absurd rfl decided
    | some result => rfl

theorem Walk.orElse_of_none {f g : Action (Walk σ) (Option ρ)} {walk : Walk σ}
    (none : (f walk).1 = .ok none) : Walk.orElse f g walk = g (f walk).2 := by
  simp only [Walk.orElse, bind_apply, none]

/-- Recovering from failures decides nothing that was open. -/
theorem Walk.decided_of_recover {element : Element} {f : Action (Walk σ) (Option ρ)} {walk : Walk σ}
    (decided : (Walk.recover element f walk).1 ≠ .ok none) : (f walk).1 ≠ .ok none := by
  intro none
  apply decided
  unfold Walk.recover
  generalize f walk = ends at none
  obtain ⟨outcome, after⟩ := ends
  cases none
  rfl

theorem Walk.recover_congr {element : Element} {f g : Action (Walk σ) (Option ρ)} {walk : Walk σ}
    (same : g walk = f walk) : Walk.recover element g walk = Walk.recover element f walk := by
  simp only [Walk.recover, same]

namespace Search

variable (search : Search) (classes : Entries ClassDecl) {target : String} {proc : Processor σ ρ}

/-- The same search beside other classes. -/
def withClasses : Search := { search with reg := search.reg.withClasses classes }

variable {search}

theorem inAnnots_withClasses {descend descend' : Descend σ ρ} {element : Element} {depth : Nat}
    {annots : List Annot}
    (same : ∀ type depth, descend' (.annotType type) depth = descend (.annotType type) depth) :
    (search.withClasses classes).inAnnots target proc descend' element depth annots =
      search.inAnnots target proc descend element depth annots := by
  have ascends : ascend proc descend' element depth = ascend proc descend element depth := by
    funext annot
    simp only [ascend, same]
  simp only [inAnnots, ascends]
  rfl

/-- From an annotation type on a search meets annotation types only, whatever its kind. -/
theorem searchElement_annotType (kind kind' : SearchKind) (fuel : Nat) (type : String)
    (depth : Nat) :
    (search.withClasses classes).searchElement kind' target proc fuel (.annotType type) depth =
      search.searchElement kind target proc fuel (.annotType type) depth := by
  induction fuel generalizing type depth with
  | zero => rfl
  | succ fuel ih =>
    have same (annots : List Annot) :
        (search.withClasses classes).inAnnots target proc
            ((search.withClasses classes).searchElement kind' target proc fuel) (.annotType type) depth
            annots =
          search.inAnnots target proc (search.searchElement kind target proc fuel) (.annotType type)
            depth annots := inAnnots_withClasses classes ih
    have beyond (search : Search) (kind : SearchKind) (descend : Descend σ ρ) :
        search.beyond kind target proc descend (.annotType type) depth = pure none := by
      cases kind <;> rfl
    simp only [searchElement, expand, same, beyond]
    rfl

variable {classes} {name : String} {descend descend' : Descend σ ρ} {depth : Nat} {walk : Walk σ}

/-- A class without superclasses inherits nothing, so a get search finds nothing beyond what is
written on it. -/
theorem beyond_of_alone (alone : search.reg.superclasses name = []) {annots : List Annot}
    (known : search.reg.declaredAnnots (.classLike name) = .ok annots) :
    (search.beyond .get target proc descend (.classLike name) depth walk).1 = .ok none := by
  obtain ⟨decl, known, _⟩ := Outcome.bind_ok known
  have inherits : search.reg.inheritedAnnots name = .ok [] := by
    simp only [Registry.inheritedAnnots, known, alone]
    rfl
  simp only [beyond, inherits]
  rfl

/-- Where a get search of a class alone is decided, a search of the class in any hierarchy is
decided by the annotations written on it. -/
theorem expand_of_decided (alone : search.reg.superclasses name = [])
    (own : (search.withClasses classes).reg.declaredAnnots (.classLike name) =
      search.reg.declaredAnnots (.classLike name))
    (same : ∀ type depth, descend' (.annotType type) depth = descend (.annotType type) depth)
    (kind : SearchKind)
    (decided : (search.expand .get target proc descend (.classLike name) depth walk).1 ≠ .ok none) :
    (search.withClasses classes).expand kind target proc descend' (.classLike name) depth walk =
      search.expand .get target proc descend (.classLike name) depth walk := by
  have deep : (search.withClasses classes).checkDepth (.classLike name) depth =
      search.checkDepth (.classLike name) depth := rfl
  unfold expand at decided ⊢
  rw [deep, own]
  cases shallow : search.checkDepth (.classLike name) depth with
  | error e => rfl
  | ok _ =>
    cases known : search.reg.declaredAnnots (.classLike name) with
    | error e => rfl
    | ok annots =>
      simp only [shallow, known, bind_apply, lift_apply] at decided ⊢
      have here : (search.inAnnots target proc descend (.classLike name) depth annots walk).1 ≠
          .ok none := by
        intro none
        rw [Walk.orElse_of_none none] at decided
        exact decided (beyond_of_alone alone known)
      rw [inAnnots_withClasses classes same, Walk.orElse_of_decided here,
        Walk.orElse_of_decided here]

/-- Where a get search from a class alone is decided, a search from the class in any hierarchy, of
either kind, takes the same steps to the same end. -/
theorem searchFrom_of_decided (alone : search.reg.superclasses name = [])
    (own : (search.withClasses classes).reg.declaredAnnots (.classLike name) =
      search.reg.declaredAnnots (.classLike name))
    (kind : SearchKind)
    (decided : (search.searchFrom .get target proc (.classLike name) depth walk).1 ≠ .ok none) :
    (search.withClasses classes).searchFrom kind target proc (.classLike name) depth walk =
      search.searchFrom .get target proc (.classLike name) depth walk := by
  -- the two searches have fuel of their own, so they are compared with what both need
  have common : ∃ fuel, search.fuel + (search.withClasses classes).fuel = fuel + 1 :=
    Nat.exists_eq_succ_of_ne_zero (by simp only [Search.fuel]; omega)
  obtain ⟨fuel, common⟩ := common
  rw [← searchElement_extra (search.withClasses classes).fuel, common] at decided
  rw [← searchElement_extra search.fuel, Nat.add_comm,
    ← searchElement_extra (search.withClasses classes).fuel, common]
  simp only [searchElement] at decided ⊢
  rw [Walk.visit_of_not_mem List.not_mem_nil] at decided
  rw [Walk.visit_of_not_mem List.not_mem_nil, Walk.visit_of_not_mem List.not_mem_nil]
  exact Walk.recover_congr (expand_of_decided alone own
    (searchElement_annotType classes .get kind fuel) kind (Walk.decided_of_recover decided))

end Search
end Annotations
