import Annotations.Proofs.Action.Yields
import Annotations.Proofs.Search.Coupling

/-!
Trails: the annotations on which a search comes to a result or to the failure that ends it, the one
where it left the elements first and one of the type looked for last. A processor that also keeps
the trail finds what it finds without, and results are built along the trail from its end.
-/
namespace Annotations

open Annotations.Action

variable {σ ρ : Type}

/-- Annotations on the way to a result, each with the element it was met on. -/
abbrev Trail := List (Element × Annot)

/-- Runs a computation and changes what is kept beside its state, whether it fails or not. -/
def Action.beside {τ α : Type} (change : τ → τ) (action : Action σ α) : Action (σ × τ) α :=
  fun (state, kept) =>
    let (outcome, state) := action state
    (outcome, state, change kept)

/-- What runs alike runs alike beside changes that are the same. -/
theorem Action.Alike.beside {τ α : Type} {R : σ → σ → Prop} {f g : Action σ α} (h : Alike R f g)
    (change : τ → τ) :
    Alike (fun s t : σ × τ => R s.1 t.1 ∧ s.2 = t.2) (f.beside change) (g.beside change) := by
  rintro ⟨s, kept⟩ ⟨t, _⟩ ⟨hs, rfl⟩
  have ends := h s t hs
  simp only [Action.beside]
  generalize f s = left at ends
  generalize g t = right at ends
  cases ends with
  | ok fits => exact .ok ⟨fits.1, fits.2, rfl⟩
  | error fits => exact .error ⟨fits, rfl⟩

/-- The same processor with the trail of its latest result or failure kept beside its state. -/
def Processor.tracing (proc : Processor σ ρ) : Processor (σ × Trail) ρ where
  process element annot depth :=
    (proc.process element annot depth).beside fun _ => [(element, annot)]
  postProcess element annot result :=
    (proc.postProcess element annot result).beside fun trail => (element, annot) :: trail

/-- The trails of a search: the first annotation is on some element, each other one on the type of
the one before it, and the last one alone is of the type looked for. -/
inductive Search.Leads (search : Search) (kind : SearchKind) (target : String) : Trail → Prop
  | last {element : Element} {annot : Annot} :
      search.Bears kind element annot → annot.type = target →
    search.Leads kind target [(element, annot)]
  | step {element : Element} {annot next : Annot} {trail : Trail} :
      search.Bears kind element annot →
    annot.type ≠ target → search.Leads kind target ((.annotType annot.type, next) :: trail) →
    search.Leads kind target ((element, annot) :: (.annotType annot.type, next) :: trail)

namespace Search.Leads

variable {search : Search} {kind : SearchKind} {target : String} {trail : Trail}

/-- What a trail leads to is no built-in type. -/
theorem target_plain (h : search.Leads kind target trail) :
    search.settings.isBuiltin target = false := by
  induction h with
  | last bears own => exact own ▸ bears.plain
  | step _ _ _ ih => exact ih

/-- No annotation before the last is of the type looked for. -/
theorem apart {outer inner : Trail} {element : Element} {annot : Annot}
    (h : search.Leads kind target (outer ++ (element, annot) :: inner)) (more : inner ≠ []) :
    annot.type ≠ target := by
  induction outer with
  | nil =>
    cases h with
    | last _ _ => exact absurd rfl more
    | step _ apart _ => exact apart
  | cons first outer ih =>
    cases outer with
    | nil =>
      cases h with
      | step _ _ later => exact ih later
    | cons second outer =>
      cases h with
      | step _ _ later => exact ih later

end Search.Leads

/-- Results of a processor along a trail, from states that meet an invariant. -/
inductive Processor.Builds (proc : Processor σ ρ) (I : σ → Prop) : Trail → ρ → Prop
  | last {element : Element} {annot : Annot} {depth : Nat} {result : ρ} :
    Yields I (proc.process element annot depth) (.ok (some result)) →
    proc.Builds I [(element, annot)] result
  | step {element : Element} {annot : Annot} {trail : Trail} {inner result : ρ} :
    proc.Builds I trail inner → Yields I (proc.postProcess element annot inner) (.ok result) →
    proc.Builds I ((element, annot) :: trail) result

/-- Failures of a processor at the first annotation of a trail. -/
inductive Processor.Breaks (proc : Processor σ ρ) (I : σ → Prop) : Trail → Error → Prop
  | last {element : Element} {annot : Annot} {depth : Nat} {e : Error} :
    Yields I (proc.process element annot depth) (.error e) → proc.Breaks I [(element, annot)] e
  | step {element : Element} {annot : Annot} {trail : Trail} {inner : ρ} {e : Error} :
    proc.Builds I trail inner → Yields I (proc.postProcess element annot inner) (.error e) →
    proc.Breaks I ((element, annot) :: trail) e

/-- A processor that ends a search at the annotations of a type and at no others. -/
structure Processor.Picks (proc : Processor σ ρ) (I : σ → Prop) (target : String) : Prop where
  process_keeps : ∀ element annot depth, Keeps I (proc.process element annot depth)
  postProcess_keeps : ∀ element annot result, Keeps I (proc.postProcess element annot result)
  own : ∀ element annot depth s, annot.type = target →
    (proc.process element annot depth s).1 ≠ .ok none
  other : ∀ element annot depth, annot.type ≠ target → proc.process element annot depth = pure none

/-- A trail that leads from an annotation type starts with an annotation on it. -/
def Trail.StartsAt (element : Element) (trail : Trail) : Prop :=
  element.isAnnotType = true → ∃ annot rest, trail = (element, annot) :: rest

namespace Search

/-- A processor with and without its trail kept. -/
def traced (search : Search) (kind : SearchKind) (target : String) (proc : Processor σ ρ)
    (I : σ → Prop) : Coupling σ (σ × Trail) ρ ρ where
  rest s t := s = t.1 ∧ I s
  result element r r' s t := r = r' ∧ s = t.1 ∧ I s ∧ search.Leads kind target t.2 ∧
    proc.Builds I t.2 r ∧ Trail.StartsAt element t.2
  failed e s t := s = t.1 ∧ I s ∧ search.Leads kind target t.2 ∧ proc.Breaks I t.2 e
  passed annot := annot.type ≠ target

theorem couples_tracing (search : Search) (kind : SearchKind) {target : String}
    {proc : Processor σ ρ} {I : σ → Prop} (h : proc.Picks I target) :
    search.Couples kind target (search.traced kind target proc I) proc proc.tracing where
  process element annot depth bears _ := by
    rintro s ⟨_, trail⟩ ⟨rfl, hs⟩
    have after := h.process_keeps element annot depth s hs
    by_cases own : annot.type = target
    · have leads := Leads.last bears own
      have yields : Yields I (proc.process element annot depth)
        (proc.process element annot depth s).1 := ⟨s, hs, rfl⟩
      have taken := h.own element annot depth s own
      simp only [Processor.tracing, Action.beside]
      generalize proc.process element annot depth s = ends at after yields taken
      obtain ⟨outcome, s'⟩ := ends
      cases outcome with
      | error e =>
        refine .error ?_
        unfold Coupling.stopped
        split
        · exact ⟨rfl, after, leads, .last yields⟩
        · exact ⟨rfl, after⟩
      | ok found =>
        cases found with
        | none => exact absurd rfl taken
        | some result => exact .ok ⟨rfl, rfl, after, leads, .last yields, fun _ => ⟨annot, [], rfl⟩⟩
    · simp only [Processor.tracing, Action.beside, h.other element annot depth own, pure_apply]
      exact .ok ⟨own, rfl, hs⟩
  postProcess element annot result result' bears passed := by
    rintro s ⟨_, trail⟩ ⟨rfl, rfl, hs, leads, builds, starts⟩
    obtain ⟨next, rest, rfl⟩ := starts rfl
    have after := h.postProcess_keeps element annot result s hs
    have leads := Leads.step bears passed leads
    have yields : Yields I (proc.postProcess element annot result)
      (proc.postProcess element annot result s).1 := ⟨s, hs, rfl⟩
    simp only [Processor.tracing, Action.beside]
    generalize proc.postProcess element annot result s = ends at after yields
    obtain ⟨outcome, s'⟩ := ends
    cases outcome with
    | error e =>
      refine .error ?_
      unfold Coupling.stopped
      split
      · exact ⟨rfl, after, leads, .step builds yields⟩
      · exact ⟨rfl, after⟩
    | ok outer => exact .ok ⟨rfl, rfl, after, leads, .step builds yields, fun _ => ⟨annot, _, rfl⟩⟩
  other _ apart := apart
  move element _ _ _ _ _ plain result := by
    obtain ⟨same, states, hs, leads, builds, _⟩ := result
    exact ⟨same, states, hs, leads, builds,
      fun onType => absurd (plain.symm.trans onType) Bool.false_ne_true⟩

end Search
end Annotations
