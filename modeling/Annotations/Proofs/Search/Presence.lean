import Annotations.Engine
import Annotations.Proofs.Search.Coupling

/-!
What a search for the presence of a type tells of other searches. Up to the first annotation of the
type they go the same way, so where nothing is present a processor that acts on annotations of the
type alone finds nothing, fails nowhere and keeps its state.
-/
namespace Annotations

open Annotations.Action

variable {σ τ ρ : Type}

/-- A processor that lets all annotations of other types pass without a trace. -/
def Processor.ActsOn (proc : Processor σ ρ) (target : String) : Prop :=
  ∀ element annot depth, annot.type ≠ target → proc.process element annot depth = pure none

/-- How a step of a search for presence ends beside a step of another search: it finds something, or
neither does and they stay on the same way. -/
inductive Foretold (reg : Registry) (start : τ) :
    Except Error (Option Unit) × Walk Unit → Except Error (Option ρ) × Walk τ → Prop
  | present {walk : Walk Unit} {ends : Except Error (Option ρ) × Walk τ} :
    Foretold reg start (.ok (some ()), walk) ends
  | absent {walk : Walk Unit} {walk' : Walk τ} :
    Walk.Tied reg (fun _ state => state = start) walk walk' →
    Foretold reg start (.ok none, walk) (.ok none, walk')
  | failed {e : Error} {walk : Walk Unit} {walk' : Walk τ} : e.isConfiguration = false →
    Walk.Tied reg (fun _ state => state = start) walk walk' →
    Foretold reg start (.error e, walk) (.error e, walk')

/-- A step of a search for presence that tells of another step. -/
def Foretells (reg : Registry) (start : τ) (f : Action (Walk Unit) (Option Unit))
    (g : Action (Walk τ) (Option ρ)) : Prop :=
  ∀ walk walk', Walk.Tied reg (fun _ state => state = start) walk walk' →
    Foretold reg start (f walk) (g walk')

namespace Foretells

variable {reg : Registry} {start : τ}

theorem none : Foretells reg start (pure .none) (pure .none : Action (Walk τ) (Option ρ)) :=
  fun _ _ tied => .absent tied

/-- Going on after a step: only where it found nothing is there something to tell. -/
theorem next {f : Action (Walk Unit) (Option Unit)} {g : Action (Walk τ) (Option ρ)}
    {k : Option Unit → Action (Walk Unit) (Option Unit)} {l : Option ρ → Action (Walk τ) (Option ρ)}
    (h : Foretells reg start f g) (hk : ∀ walk, (k (some ()) walk).1 = .ok (some ()))
    (hn : Foretells reg start (k .none) (l .none)) : Foretells reg start (f >>= k) (g >>= l) := by
  intro walk walk' tied
  have ends := h walk walk' tied
  simp only [bind_apply]
  generalize f walk = left at ends
  generalize g walk' = right at ends
  cases ends with
  | @present after =>
    have found := hk after
    simp only
    generalize k (some ()) after = last at found
    obtain ⟨outcome, final⟩ := last
    cases found
    exact .present
  | absent tied => exact hn _ _ tied
  | failed harmless tied => exact .failed harmless tied

theorem orElse {f f' : Action (Walk Unit) (Option Unit)} {g g' : Action (Walk τ) (Option ρ)}
    (h : Foretells reg start f g) (h' : Foretells reg start f' g') :
    Foretells reg start (Walk.orElse f f') (Walk.orElse g g') :=
  h.next (fun _ => rfl) h'

theorem inTurn : Walk.InTurn (Foretells reg start (ρ := ρ)) := ⟨none, orElse⟩

theorem enter {element : Element} {f : Action (Walk Unit) (Option Unit)}
    {g : Action (Walk τ) (Option ρ)} (h : Foretells reg start f g) :
    Foretells reg start (Walk.visit element (Walk.recover element f))
      (Walk.visit element (Walk.recover element g)) := by
  intro walk walk' tied
  simp only [Walk.visit, ← tied.visited]
  split
  · exact .absent tied
  · have entered : Walk.Tied reg (fun _ state => state = start)
        { walk with visited := element :: walk.visited }
        { walk' with visited := element :: walk.visited } :=
      ⟨rfl, tied.interfaces, tied.interfaces', tied.state⟩
    have ends := h _ _ entered
    simp only [Walk.recover]
    generalize f _ = left at ends
    generalize g _ = right at ends
    cases ends with
    | present => exact .present
    | absent tied => exact .absent tied
    | failed harmless tied =>
      simp only [harmless, Bool.false_eq_true, if_false]
      exact .absent ⟨tied.visited, tied.interfaces, tied.interfaces', tied.state⟩

/-- What a search for presence tells is kept by all the ways of putting steps together. -/
theorem parallel (search : Search) (keep keep' : Bool) (start : τ) :
    search.Parallel keep keep' fun _ f (g : Action (Walk τ) (Option ρ)) =>
      Foretells search.reg start f g where
  inTurn _ := inTurn
  asking {_ outcome _ k l} harmless steps walk walk' tied := by
    simp only [bind_apply, lift_apply]
    cases outcome with
    | ok answer => exact steps answer rfl walk walk' tied
    | error e => exact .failed (harmless e rfl) tied
  askingInterface {_ k l} name steps walk walk' tied := by
    obtain ⟨_, _, sound, left⟩ :=
      (search.caching keep).hasAnnotatedMethods_learns name walk tied.interfaces
    obtain ⟨_, _, sound', right⟩ :=
      (search.caching keep').hasAnnotatedMethods_learns name walk' tied.interfaces'
    rw [bind_apply, bind_apply, left, right]
    simp only [Search.caching]
    cases answer : search.reg.hasAnnotatedMethods name with
    | ok annotated => exact steps annotated _ _ ⟨tied.visited, sound, sound', tied.state⟩
    | error e =>
      exact .failed (search.reg.hasAnnotatedMethods_harmless name e answer)
        ⟨tied.visited, sound, sound', tied.state⟩
  enter step := step.enter
  move _ step := step

end Foretells

namespace Search

variable {search : Search} {kind : SearchKind} {target : String} {proc : Processor τ ρ}
  {start : τ}

theorem offer_foretells (acts : proc.ActsOn target) (element : Element) (depth : Nat)
    (annot : Annot) :
    Foretells search.reg start (offer target (presence target) element depth annot)
      (offer target proc element depth annot) := by
  unfold offer
  split
  · by_cases own : annot.type = target
    · intro walk walk' tied
      have found : (presence target).process element annot depth = pure (some ()) := by
        simp [presence, own]
      rw [found]
      exact .present
    · have passed : (presence target).process element annot depth = pure none := by
        simp [presence, own]
      rw [acts element annot depth own, passed]
      intro walk walk' tied
      exact .absent ⟨tied.visited, tied.interfaces, tied.interfaces', tied.state⟩
  · exact .none

theorem annotating_foretells (acts : proc.ActsOn target) (keep keep' : Bool) :
    Parallel.Annotating search keep keep' kind target
      (fun _ f g => Foretells search.reg start f g) (presence target) proc := by
  intro descend descend' hd element depth annots _
  refine Foretells.inTurn.inAnnots rfl (fun annot _ => ?_) fun annot _ => ?_
  · exact offer_foretells acts element depth annot
  · exact (hd (.annotType annot.type) (depth + 1)).next (fun _ => rfl) .none

/-- A search for presence has an answer, and where that is no, another search from there that acts on
the type alone comes to nothing. -/
theorem presence_settles (kind : SearchKind) (acts : proc.ActsOn target) (element : Element)
    (depth : Nat) {walk : Walk Unit} {walk' : Walk τ}
    (sound : search.reg.InterfacesSound walk.interfaces)
    (sound' : search.reg.InterfacesSound walk'.interfaces) :
    (search.searchFrom kind target (presence target) element depth walk).1 = .ok (some ()) ∨
      (search.searchFrom kind target (presence target) element depth walk).1 = .ok none ∧
        (search.searchFrom kind target proc element depth walk').1 = .ok none ∧
        (search.searchFrom kind target proc element depth walk').2.state = walk'.state := by
  have annotating : Parallel.Annotating search search.settings.cacheEnabled
      search.settings.cacheEnabled kind target (fun _ f g => Foretells search.reg walk'.state f g)
      (presence target) proc := annotating_foretells acts _ _
  have ends : Foretold search.reg walk'.state
      (search.searchFrom kind target (presence target) element depth walk)
      (search.searchFrom kind target proc element depth walk') :=
    (Foretells.parallel search _ _ walk'.state).searchElement annotating search.fuel element depth
      _ _ ⟨rfl, sound, sound', rfl⟩
  have ending {e : Error} := @searchFrom_error _ _ search kind target (presence target) element
    depth walk e
  generalize search.searchFrom kind target (presence target) element depth walk = left at ends ending ⊢
  generalize search.searchFrom kind target proc element depth walk' = right at ends ⊢
  cases ends with
  | present => exact .inl rfl
  | absent tied => exact .inr ⟨rfl, rfl, tied.state⟩
  | failed harmless _ => exact absurd ((ending rfl).symm.trans harmless) (by decide)

end Search
end Annotations
