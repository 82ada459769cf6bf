import Annotations.Proofs.Search.Routes

/-!
Searches end. Whatever is put in where the fuel of a search would run out, the search does not come
to it: each expansion under way is of another declared element, and there is fuel for one more. So
the fuel sets no limit of its own.
-/
namespace Annotations

open Annotations.Action

variable {σ ρ : Type}

namespace Search

/-- The search with something else in place of giving up where the fuel has run out. -/
def filled (search : Search) (bottom : Descend σ ρ) (kind : SearchKind) (target : String)
    (proc : Processor σ ρ) : Nat → Descend σ ρ
  | 0 => bottom
  | fuel + 1 => fun element depth =>
    Walk.visit element
      (Walk.recover element
        (search.expand kind target proc (search.filled bottom kind target proc fuel) element depth))

/-- What is known of interfaces and the events are all that a question about an interface reads and
changes. -/
theorem hasAnnotatedMethods_apply (search : Search) (name : String) :
    ∃ answer : Entries Bool → List Event → Except Error Bool × Entries Bool × List Event,
      ∀ {σ : Type} (walk : Walk σ), search.hasAnnotatedMethods name walk =
        ((answer walk.interfaces walk.events).1,
          { walk with
            interfaces := (answer walk.interfaces walk.events).2.1
            events := (answer walk.interfaces walk.events).2.2 }) := by
  let ask (interfaces : Entries Bool) (events : List Event) : Except Error Bool × Walk Unit :=
    search.hasAnnotatedMethods name { interfaces, events, state := () }
  refine ⟨fun interfaces events => ((ask interfaces events).1, (ask interfaces events).2.interfaces,
    (ask interfaces events).2.events), fun walk => ?_⟩
  simp only [ask]
  unfold hasAnnotatedMethods
  cases search.settings.cacheEnabled with
  | false => simp [lift_apply]
  | true =>
    simp only [Bool.not_true, Bool.false_eq_true, if_false, bind_apply, get_apply]
    cases walk.interfaces.get? name with
    | some known => rfl
    | none =>
      simp only [bind_apply, modify_apply, lift_apply]
      cases search.reg.hasAnnotatedMethods name <;> rfl

/-- From walks that have met the elements under expansion two steps do the same, and those elements
stay met. -/
def SameFrom (path : List Element) (f g : Action (Walk σ) (Option ρ)) : Prop :=
  ∀ walk, path ⊆ walk.visited → f walk = g walk ∧ path ⊆ (g walk).2.visited

namespace SameFrom

variable {path : List Element} {f f' g g' : Action (Walk σ) (Option ρ)} {element : Element}

theorem none : SameFrom path (pure .none : Action (Walk σ) (Option ρ)) (pure .none) :=
  fun _ met => ⟨rfl, met⟩

theorem orElse (h : SameFrom path f g) (h' : SameFrom path f' g') :
    SameFrom path (Walk.orElse f f') (Walk.orElse g g') := by
  intro walk met
  obtain ⟨same, still⟩ := h walk met
  simp only [Walk.orElse, bind_apply, same]
  generalize g walk = ends at still
  rcases ends with ⟨_ | _ | _, after⟩
  · exact ⟨rfl, still⟩
  · exact h' after still
  · exact ⟨rfl, still⟩

theorem inTurn : Walk.InTurn (SameFrom (σ := σ) (ρ := ρ) path) := ⟨none, orElse⟩

/-- Only elements not met before are entered, so none of those under expansion. -/
theorem enter (h : element ∉ path → ∀ walk, element :: path ⊆ walk.visited →
      f walk = g walk ∧ path ⊆ (g walk).2.visited) :
    SameFrom path (Walk.visit element (Walk.recover element f))
      (Walk.visit element (Walk.recover element g)) := by
  intro walk met
  by_cases seen : element ∈ walk.visited
  · rw [Walk.visit_of_mem seen, Walk.visit_of_mem seen]
    exact ⟨rfl, met⟩
  · rw [Walk.visit_of_not_mem seen, Walk.visit_of_not_mem seen]
    obtain ⟨same, still⟩ := h (fun mem => seen (met mem))
      { walk with visited := element :: walk.visited } (List.cons_subset_cons _ met)
    simp only [Walk.recover, same, true_and]
    generalize g _ = ends at still
    obtain ⟨e | result, after⟩ := ends
    · dsimp only
      split <;> exact still
    · exact still

end SameFrom

/-- Doing the same is kept by all the ways in which a search puts steps together. -/
theorem sameFrom_parallel (search : Search) (path : List Element) (keep : Bool) :
    search.Parallel keep keep
      (fun _ (f g : Action (Walk σ) (Option ρ)) => SameFrom path f g) where
  inTurn _ := SameFrom.inTurn
  asking {_ outcome _ k l} _ steps := by
    intro walk met
    simp only [bind_apply, lift_apply]
    cases outcome with
    | ok a => exact steps a rfl walk met
    | error e => exact ⟨rfl, met⟩
  askingInterface {_ k l} name steps := by
    intro walk met
    obtain ⟨answer, apply⟩ := (search.caching keep).hasAnnotatedMethods_apply name
    simp only [bind_apply, apply]
    cases (answer walk.interfaces walk.events).1 with
    | ok annotated => exact steps annotated _ met
    | error e => exact ⟨rfl, met⟩
  enter step := .enter fun _ walk met => step walk (List.Subset.trans (List.subset_cons_self _ _) met)
  move _ step := step

variable {search : Search} {kind : SearchKind} {target : String} {proc : Processor σ ρ}

theorem SameFrom.inAnnots {path : List Element} {descend descend' : Descend σ ρ}
    (hd : ∀ element depth, SameFrom path (descend element depth) (descend' element depth))
    (element : Element) (depth : Nat) (annots : List Annot) :
    SameFrom path (search.inAnnots target proc descend element depth annots)
      (search.inAnnots target proc descend' element depth annots) := by
  refine SameFrom.inTurn.inAnnots rfl (fun annot _ walk met => ⟨rfl, ?_⟩) fun annot _ walk met => ?_
  · unfold offer
    split <;> exact met
  · obtain ⟨same, still⟩ := hd (.annotType annot.type) (depth + 1) walk met
    simp only [ascend, bind_apply, same, true_and]
    generalize descend' _ _ walk = ends at still
    rcases ends with ⟨_ | _ | result, after⟩
    · exact still
    · exact still
    · simp only [Walk.onState, bind_apply]
      generalize proc.postProcess element annot result after.state = back
      obtain ⟨_ | _, state⟩ := back
      · exact still
      · exact still

/-- With what it has fuel for, a search does not come to where the fuel runs out. -/
theorem filled_sameFrom (bottom : Descend σ ρ) (fuel : Nat) {path : List Element}
    (distinct : path.Nodup) (known : ∀ element ∈ path, element ∈ search.reg.elements)
    (left : path.length + fuel = search.fuel) (element : Element) (depth : Nat) :
    SameFrom path (search.filled bottom kind target proc fuel element depth)
      (search.searchElement kind target proc fuel element depth) := by
  induction fuel generalizing path element depth with
  | zero =>
    have bound : path.length ≤ search.reg.elements.length :=
      (List.subperm_of_subset distinct known).length_le
    rw [fuel_eq] at left
    omega
  | succ fuel ih =>
    refine .enter fun fresh walk met => ?_
    cases declared : search.reg.declaredAnnots element with
    | error e =>
      -- an element that is not declared leads nowhere
      have onPath := List.Subset.trans (List.subset_cons_self _ _) met
      simp only [expand, declared, bind_apply, lift_apply, true_and]
      cases search.checkDepth element depth with
      | ok _ => exact onPath
      | error _ => exact onPath
    | ok annots =>
      have known' : ∀ other ∈ element :: path, other ∈ search.reg.elements := by
        intro other mem
        rcases List.mem_cons.1 mem with rfl | mem
        · exact Registry.mem_elements_of_declared declared
        · exact known other mem
      have below := @ih (element :: path) (List.nodup_cons.2 ⟨fresh, distinct⟩) known'
        (by rw [← left, List.length_cons]; omega)
      have par := search.sameFrom_parallel (σ := σ) (ρ := ρ) (element :: path)
        search.settings.cacheEnabled
      have annotating : Parallel.Annotating search search.settings.cacheEnabled
          search.settings.cacheEnabled kind target
          (fun _ (f g : Action (Walk σ) (Option ρ)) => SameFrom (element :: path) f g) proc proc :=
        fun _ _ hd element depth annots _ => .inAnnots hd element depth annots
      obtain ⟨same, still⟩ := par.expand annotating below element depth walk met
      exact ⟨same, List.Subset.trans (List.subset_cons_self _ _) still⟩

end Search
end Annotations
