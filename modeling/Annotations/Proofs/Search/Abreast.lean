import Annotations.Proofs.Graph.Sheltered
import Annotations.Proofs.Search.Coupling

/-!
Steps of a search beside steps of the same search over the pruned registry: they end alike, or the
first is abandoned where the second finds nothing.
-/
namespace Annotations

open Annotations.Action

variable {σ ρ α : Type}

/-- The same search over the pruned registry. -/
def Search.pruned (search : Search) : Search := { search with reg := search.reg.pruned }

/-- A class that is not registered. -/
def Registry.missing (reg : Registry) : Element → Bool
  | .classLike name => !reg.hasClass name
  | _ => false

/-- Two walks, the second over the pruned registry, that have met the same elements but for missing
classes. -/
structure Walk.Beside (reg : Registry) (walk walk' : Walk σ) : Prop where
  visited : ∀ element, reg.missing element = false →
    (element ∈ walk.visited ↔ element ∈ walk'.visited)
  interfaces : reg.InterfacesSound walk.interfaces
  interfaces' : reg.pruned.InterfacesSound walk'.interfaces
  state : walk.state = walk'.state

theorem Walk.Beside.begin {reg : Registry} {walk walk' : Walk σ} (h : Walk.Beside reg walk walk') :
    Walk.Beside reg { walk with visited := [] } { walk' with visited := [] } :=
  ⟨fun _ _ => Iff.rfl, h.interfaces, h.interfaces', h.state⟩

/-- What is met on both sides makes no difference. -/
theorem Walk.Beside.enter {reg : Registry} {walk walk' : Walk σ} (h : Walk.Beside reg walk walk')
    (element : Element) :
    Walk.Beside reg { walk with visited := element :: walk.visited }
      { walk' with visited := element :: walk'.visited } := by
  refine ⟨fun other plain => ?_, h.interfaces, h.interfaces', h.state⟩
  rw [List.mem_cons, List.mem_cons, h.visited other plain]

/-- No failure is turned into a result. -/
theorem Walk.recover_found {element : Element} {f : Action (Walk σ) (Option ρ)} {walk : Walk σ}
    {result : ρ} :
    (Walk.recover element f walk).1 = .ok (some result) ↔ (f walk).1 = .ok (some result) := by
  unfold Walk.recover
  rcases f walk with ⟨e | found, after⟩
  · simp only
    split <;> simp
  · exact Iff.rfl

/-- How a step ends beside the same step over the pruned registry: alike, or where the step may be
abandoned, in a harmless failure beside no result. -/
inductive Ended (reg : Registry) (abandons : Prop) :
    Except Error (Option ρ) × Walk σ → Except Error (Option ρ) × Walk σ → Prop
  | alike {outcome : Except Error (Option ρ)} {walk walk' : Walk σ} :
    Walk.Beside reg walk walk' → Ended reg abandons (outcome, walk) (outcome, walk')
  | abandoned {e : Error} {walk walk' : Walk σ} : abandons → e.isConfiguration = false →
    Walk.Beside reg walk walk' → Ended reg abandons (.error e, walk) (.ok none, walk')

/-- From walks beside each other two steps end beside each other. -/
def Abreast (reg : Registry) (abandons : Prop) (f g : Action (Walk σ) (Option ρ)) : Prop :=
  ∀ walk walk', Walk.Beside reg walk walk' → Ended reg abandons (f walk) (g walk')

namespace Abreast

variable {reg : Registry} {abandons : Prop} {element : Element}
  {f g f' g' : Action (Walk σ) (Option ρ)}

theorem pure (found : Option ρ) : Abreast reg abandons (pure found : Action (Walk σ) _) (pure found) :=
  fun _ _ beside => .alike beside

theorem mayAbandon (h : Abreast reg False f g) : Abreast reg abandons f g := by
  intro walk walk' beside
  have ends := h walk walk' beside
  generalize f walk = left at ends
  generalize g walk' = right at ends
  cases ends with
  | alike beside => exact .alike beside
  | abandoned may => exact may.elim

/-- A step that is never abandoned may be followed by any other. -/
theorem bind {k l : Option ρ → Action (Walk σ) (Option ρ)} (h : Abreast reg False f g)
    (hk : ∀ found, Abreast reg abandons (k found) (l found)) :
    Abreast reg abandons (f >>= k) (g >>= l) := by
  intro walk walk' beside
  have ends := h walk walk' beside
  rw [bind_apply, bind_apply]
  generalize f walk = left at ends
  generalize g walk' = right at ends
  cases ends with
  | @alike outcome after after' beside =>
    cases outcome with
    | ok found => exact hk found after after' beside
    | error e => exact .alike beside
  | abandoned may => exact may.elim

theorem orElse (h : Abreast reg False f g) (h' : Abreast reg abandons f' g') :
    Abreast reg abandons (Walk.orElse f f') (Walk.orElse g g') := by
  refine h.bind fun found => ?_
  cases found with
  | none => exact h'
  | some result => exact .pure (some result)

theorem inTurn : Walk.InTurn (Abreast (σ := σ) (ρ := ρ) reg False) := ⟨.pure none, orElse⟩

/-- Items that are met in vain may be left out. -/
theorem firstSome_vain {keep : α → Bool} {items : List α}
    {step step' : α → Action (Walk σ) (Option ρ)}
    (kept : ∀ item ∈ items, keep item = true → Abreast reg False (step item) (step' item))
    (vain : ∀ item ∈ items, keep item = false → ∀ walk walk', Walk.Beside reg walk walk' →
      ∃ after, step item walk = (.ok none, after) ∧ Walk.Beside reg after walk') :
    Abreast reg False (Walk.firstSome step items) (Walk.firstSome step' (items.filter keep)) := by
  induction items with
  | nil => exact .pure none
  | cons item rest ih =>
    have later := ih (fun other mem => kept other (.tail item mem))
      fun other mem => vain other (.tail item mem)
    cases known : keep item with
    | true =>
      rw [List.filter_cons_of_pos known]
      exact (kept item (.head rest) known).orElse later
    | false =>
      rw [List.filter_cons_of_neg (by simp [known])]
      intro walk walk' beside
      obtain ⟨after, ends, beside⟩ := vain item (.head rest) known walk walk' beside
      rw [Walk.firstSome, bind_apply, ends]
      exact later after walk' beside

/-- The last item may be left out if it fails. -/
theorem firstSome_failing {keep : α → Bool} {items : List α}
    {step step' : α → Action (Walk σ) (Option ρ)}
    (last : items.Pairwise fun item _ => keep item = true)
    (kept : ∀ item ∈ items, keep item = true → Abreast reg False (step item) (step' item))
    (fails : ∀ item ∈ items, keep item = false → ∀ walk, ∃ e, e.isConfiguration = false ∧
      step item walk = (.error e, walk)) :
    Abreast reg True (Walk.firstSome step items) (Walk.firstSome step' (items.filter keep)) := by
  induction items with
  | nil => exact .pure none
  | cons item rest ih =>
    obtain ⟨alone, last⟩ := List.pairwise_cons.1 last
    have later := ih last (fun other mem => kept other (.tail item mem))
      fun other mem => fails other (.tail item mem)
    cases known : keep item with
    | true =>
      rw [List.filter_cons_of_pos known]
      exact (kept item (.head rest) known).orElse later
    | false =>
      rw [List.filter_cons_of_neg (by simp [known])]
      -- an item that fails is the last, so there is nothing that its failure hides
      cases rest with
      | nil =>
        intro walk walk' beside
        obtain ⟨e, harmless, ends⟩ := fails item (.head []) known walk
        rw [Walk.firstSome, bind_apply, ends]
        exact .abandoned trivial harmless beside
      | cons other _ => cases known.symm.trans (alone other (.head _))

/-- A question that both registries answer alike. -/
theorem asking {outcome outcome' : Except Error α} {k l : α → Action (Walk σ) (Option ρ)}
    (same : outcome' = outcome) (h : ∀ a, outcome = .ok a → Abreast reg abandons (k a) (l a)) :
    Abreast reg abandons (liftM outcome >>= k) (liftM outcome' >>= l) := by
  intro walk walk' beside
  rw [bind_apply, bind_apply, lift_apply, lift_apply, same]
  cases outcome with
  | ok a => exact h a rfl walk walk' beside
  | error e => exact .alike beside

/-- A question to a class, which may be left with fewer names. -/
theorem askingClass {name : String} {k l : ClassDecl → Action (Walk σ) (Option ρ)}
    (h : ∀ decl, reg.classDecl name = .ok decl →
      Abreast reg abandons (k decl) (l (decl.keeping reg.hasClass))) :
    Abreast reg abandons (liftM (reg.classDecl name) >>= k)
      (liftM (reg.pruned.classDecl name) >>= l) := by
  intro walk walk' beside
  rw [bind_apply, bind_apply, lift_apply, lift_apply, Registry.pruned_classDecl]
  cases known : reg.classDecl name with
  | ok decl => exact h decl known walk walk' beside
  | error e => exact .alike beside

/-- A question about an interface that both registries answer alike. -/
theorem askingInterface {search : Search} {name : String}
    {k l : Bool → Action (Walk σ) (Option ρ)}
    (same : search.reg.pruned.hasAnnotatedMethods name = search.reg.hasAnnotatedMethods name)
    (h : ∀ annotated, Abreast search.reg abandons (k annotated) (l annotated)) :
    Abreast search.reg abandons (search.hasAnnotatedMethods name >>= k)
      (search.pruned.hasAnnotatedMethods name >>= l) := by
  intro walk walk' beside
  obtain ⟨_, _, sound, left⟩ := search.hasAnnotatedMethods_learns name walk beside.interfaces
  obtain ⟨_, _, sound', right⟩ :=
    search.pruned.hasAnnotatedMethods_learns name walk' beside.interfaces'
  rw [bind_apply, bind_apply, left, right]
  simp only [Search.pruned, same]
  cases search.reg.hasAnnotatedMethods name with
  | ok annotated => exact h annotated _ _ ⟨beside.visited, sound, sound', beside.state⟩
  | error e => exact .alike ⟨beside.visited, sound, sound', beside.state⟩

/-- What the processor does is the same on both sides. -/
theorem onState {step : Action σ α} {k : α → Action (Walk σ) (Option ρ)}
    (h : ∀ a, Abreast reg abandons (k a) (k a)) :
    Abreast reg abandons (Walk.onState step >>= k) (Walk.onState step >>= k) := by
  intro walk walk' beside
  rw [bind_apply, bind_apply]
  simp only [Walk.onState, beside.state]
  obtain ⟨outcome, after⟩ := step walk'.state
  have beside' : Walk.Beside reg { walk with state := after } { walk' with state := after } :=
    ⟨beside.visited, beside.interfaces, beside.interfaces', rfl⟩
  cases outcome with
  | ok a => exact h a _ _ beside'
  | error e => exact .alike beside'

/-- An element is left with no result where the step there is abandoned. -/
theorem enter (plain : reg.missing element = false) (h : Abreast reg True f g) :
    Abreast reg False (Walk.visit element (Walk.recover element f))
      (Walk.visit element (Walk.recover element g)) := by
  intro walk walk' beside
  have same := beside.visited element plain
  by_cases seen : element ∈ walk.visited
  · rw [Walk.visit_of_mem seen, Walk.visit_of_mem (same.1 seen)]
    exact .alike beside
  rw [Walk.visit_of_not_mem seen, Walk.visit_of_not_mem (mt same.2 seen)]
  have ends := h _ _ (beside.enter element)
  simp only [Walk.recover]
  generalize f _ = left at ends
  generalize g _ = right at ends
  cases ends with
  | @alike outcome after after' beside =>
    have recorded : Walk.Beside reg (after.record (.failure element.kind))
        (after'.record (.failure element.kind)) :=
      ⟨beside.visited, beside.interfaces, beside.interfaces', beside.state⟩
    cases outcome with
    | ok found => exact .alike beside
    | error e =>
      simp only
      split
      · exact .alike beside
      · exact .alike recorded
  | abandoned _ harmless beside =>
    simp only [harmless, Bool.false_eq_true, if_false]
    exact .alike ⟨beside.visited, beside.interfaces, beside.interfaces', beside.state⟩

end Abreast

/-- Whatever a step finds the other finds too, if it may find something where the first does not. -/
def Hides (reg : Registry) (f g : Action (Walk σ) (Option ρ)) : Prop :=
  ∀ walk walk', Walk.Beside reg walk walk' → ∀ result,
    (f walk).1 = .ok (some result) → (g walk').1 = .ok (some result)

theorem Abreast.hides {reg : Registry} {f g : Action (Walk σ) (Option ρ)}
    (h : Abreast reg False f g) : Hides reg f g := by
  intro walk walk' beside result found
  have ends := h walk walk' beside
  generalize f walk = left at ends found
  generalize g walk' = right at ends ⊢
  cases ends with
  | alike _ => exact found
  | abandoned may => exact may.elim

namespace Hides

variable {reg : Registry} {element : Element} {f g f' g' : Action (Walk σ) (Option ρ)}

theorem none : Hides reg (pure .none) g := by
  intro walk walk' beside result found
  cases found

theorem asking {outcome outcome' : Except Error α} {k l : α → Action (Walk σ) (Option ρ)}
    (same : ∀ a, outcome = .ok a → outcome' = .ok a)
    (h : ∀ a, outcome = .ok a → Hides reg (k a) (l a)) :
    Hides reg (liftM outcome >>= k) (liftM outcome' >>= l) := by
  intro walk walk' beside result found
  rw [bind_apply, lift_apply] at found ⊢
  cases outcome with
  | ok a =>
    rw [same a rfl]
    exact h a rfl walk walk' beside result found
  | error e => cases found

theorem orElse (h : Abreast reg False f g) (h' : Hides reg f' g') :
    Hides reg (Walk.orElse f f') (Walk.orElse g g') := by
  intro walk walk' beside result found
  have ends := h walk walk' beside
  simp only [Walk.orElse, bind_apply] at found ⊢
  generalize f walk = left at ends found
  generalize g walk' = right at ends ⊢
  cases ends with
  | abandoned may => exact may.elim
  | @alike outcome after after' beside =>
    rcases outcome with e | _ | result'
    · cases found
    · exact h' after after' beside result found
    · exact found

theorem enter (plain : reg.missing element = false) (h : Hides reg f g) :
    Hides reg (Walk.visit element (Walk.recover element f))
      (Walk.visit element (Walk.recover element g)) := by
  intro walk walk' beside result found
  have same := beside.visited element plain
  by_cases seen : element ∈ walk.visited
  · rw [Walk.visit_of_mem seen] at found
    cases found
  rw [Walk.visit_of_not_mem seen] at found
  rw [Walk.visit_of_not_mem (mt same.2 seen)]
  rw [Walk.recover_found] at found ⊢
  exact h _ _ (beside.enter element) result found

end Hides
end Annotations
