import Annotations.Proofs.Action.Paired
import Annotations.Proofs.Alias.Symmetry
import Annotations.Proofs.Graph.Hierarchy
import Annotations.Proofs.Graph.Reordered
import Annotations.Proofs.Search.Coupling

/-!
Two searches over one registry whose processors work in step: at each annotation both have a result, or
neither has, or both fail with errors that reach equally far. So do the searches.
-/
namespace Annotations

open Annotations.Action

variable {σ τ ρ ρ' α : Type}

namespace Search

/-- Two steps of a search that both find something, related, that both find nothing, or that both
fail. -/
def InStep (reg : Registry) (R : σ → τ → Prop) (Q : ρ → ρ' → Prop)
    (f : Action (Walk σ) (Option ρ)) (g : Action (Walk τ) (Option ρ')) : Prop :=
  Paired (Walk.Tied reg R) (Option.Rel Q) Error.SameReach f g

namespace InStep

variable {reg : Registry} {R : σ → τ → Prop} {Q : ρ → ρ' → Prop}

theorem none : InStep reg R Q (pure .none) (pure .none) := Paired.pure .none

theorem asking {outcome : Except Error α} {k : α → Action (Walk σ) (Option ρ)}
    {l : α → Action (Walk τ) (Option ρ')} (h : ∀ a, outcome = .ok a → InStep reg R Q (k a) (l a)) :
    InStep reg R Q (liftM outcome >>= k) (liftM outcome >>= l) := by
  have alike : Outcome.Meet (fun a a' => a = a' ∧ outcome = .ok a) Error.SameReach outcome outcome := by
    cases outcome with
    | ok a => exact .ok ⟨rfl, rfl⟩
    | error e => exact .error rfl
  refine Paired.bind (Paired.lift alike) ?_
  rintro a _ ⟨rfl, known⟩
  exact h a known

theorem orElse {f f' : Action (Walk σ) (Option ρ)} {g g' : Action (Walk τ) (Option ρ')}
    (first : InStep reg R Q f g) (second : InStep reg R Q f' g') :
    InStep reg R Q (Walk.orElse f f') (Walk.orElse g g') := by
  refine Paired.bind first fun found found' related => ?_
  cases related with
  | none => exact second
  | some related => exact Paired.pure (.some related)

theorem inTurn : Walk.InTurn (InStep reg R Q) := ⟨none, orElse⟩

/-- An element that cannot be introspected on one side cannot be on the other. -/
theorem recover {element : Element} {f : Action (Walk σ) (Option ρ)}
    {g : Action (Walk τ) (Option ρ')} (h : InStep reg R Q f g) :
    InStep reg R Q (Walk.recover element f) (Walk.recover element g) := by
  intro walk walk' tied
  obtain ⟨meet, after⟩ := h walk walk' tied
  unfold Walk.recover
  generalize f walk = left at meet after
  generalize g walk' = right at meet after
  obtain ⟨outcome, left⟩ := left
  obtain ⟨outcome', right⟩ := right
  cases meet with
  | ok related => exact ⟨.ok related, after⟩
  | @error e e' reach =>
    have reach : e.isConfiguration = e'.isConfiguration := reach
    simp only [reach]
    split
    · exact ⟨.error reach, after⟩
    · exact ⟨.ok .none, after.visited, after.interfaces, after.interfaces', after.state⟩

theorem visit {element : Element} {f : Action (Walk σ) (Option ρ)}
    {g : Action (Walk τ) (Option ρ')} (h : InStep reg R Q f g) :
    InStep reg R Q (Walk.visit element f) (Walk.visit element g) := by
  intro walk walk' tied
  simp only [Walk.visit, ← tied.visited]
  split
  · exact ⟨.ok .none, tied⟩
  · exact h _ _ ⟨by simp only, tied.interfaces, tied.interfaces', tied.state⟩

end InStep

/-- The parts of two processors in step with their states are in step with the walks. -/
theorem onState_paired {α' : Type} (reg : Registry) {R : σ → τ → Prop} {Q : α → α' → Prop}
    {E : Error → Error → Prop} {f : Action σ α} {g : Action τ α'} (h : Paired R Q E f g) :
    Paired (Walk.Tied reg R) Q E (Walk.onState f) (Walk.onState g) := by
  intro walk walk' tied
  obtain ⟨meet, after⟩ := h walk.state walk'.state tied.state
  exact ⟨meet, tied.visited, tied.interfaces, tied.interfaces', after⟩

theorem hasAnnotatedMethods_paired (search : Search) (keep keep' : Bool) (R : σ → τ → Prop)
    (name : String) :
    Paired (Walk.Tied search.reg R) Eq Error.SameReach
      ((search.caching keep).hasAnnotatedMethods name)
      ((search.caching keep').hasAnnotatedMethods name) := by
  intro walk walk' tied
  obtain ⟨table, events, sound, left⟩ :=
    (search.caching keep).hasAnnotatedMethods_learns name walk tied.interfaces
  obtain ⟨table', events', sound', right⟩ :=
    (search.caching keep').hasAnnotatedMethods_learns name walk' tied.interfaces'
  rw [left, right]
  refine ⟨?_, tied.visited, sound, sound', tied.state⟩
  simp only [caching]
  cases search.reg.hasAnnotatedMethods name with
  | ok annotated => exact .ok rfl
  | error e => exact .error rfl

/-- Two processors that work in step on every candidate of a search and on results found on its type.
Results at an element that is no annotation type may come from another one. -/
structure Paces (search : Search) (kind : SearchKind) (target : String) (R : σ → τ → Prop)
    (Q : Element → ρ → ρ' → Prop) (proc : Processor σ ρ) (proc' : Processor τ ρ') : Prop where
  process : ∀ element annot depth, search.Bears kind element annot →
    Paired R (Option.Rel (Q element)) Error.SameReach (proc.process element annot depth)
      (proc'.process element annot depth)
  postProcess : ∀ element annot result result', search.Bears kind element annot →
    Q (.annotType annot.type) result result' →
    Paired R (Q element) Error.SameReach (proc.postProcess element annot result)
      (proc'.postProcess element annot result')
  move : ∀ element there result result', element.isAnnotType = false → Q there result result' →
    Q element result result'

namespace Paces

variable {search : Search} {kind : SearchKind} {target : String} {R : σ → τ → Prop}
  {Q : Element → ρ → ρ' → Prop} {proc : Processor σ ρ} {proc' : Processor τ ρ'}
  (h : search.Paces kind target R Q proc proc') (keep keep' : Bool)

include h

theorem parallel :
    search.Parallel keep keep' fun element f g => InStep search.reg R (Q element) f g where
  inTurn _ := InStep.inTurn
  asking _ steps := .asking steps
  askingInterface name steps :=
    Paired.bind (hasAnnotatedMethods_paired search keep keep' R name) fun annotated _ same =>
      same ▸ steps annotated
  enter step := step.recover.visit
  move plain step := Paired.mono step
    (fun found found' related => by
      cases related with
      | none => exact .none
      | some related => exact .some (h.move _ _ _ _ plain related))
    fun _ _ => id

theorem inAnnots {descend : Descend σ ρ} {descend' : Descend τ ρ'}
    (hd : ∀ element depth, InStep search.reg R (Q element) (descend element depth)
      (descend' element depth))
    {element : Element} {annots : List Annot}
    (bears : ∀ annot ∈ search.candidates annots, search.Bears kind element annot) (depth : Nat) :
    InStep search.reg R (Q element)
      ((search.caching keep).inAnnots target proc descend element depth annots)
      ((search.caching keep').inAnnots target proc' descend' element depth annots) := by
  refine InStep.inTurn.inAnnots rfl (fun annot mem => ?offered) fun annot mem => ?above
  case offered =>
    unfold offer
    split
    · exact onState_paired search.reg (h.process element annot depth (bears annot mem))
    · exact .none
  case above =>
    refine Paired.bind (hd (.annotType annot.type) (depth + 1)) fun found found' related => ?_
    cases related with
    | none => exact Paired.pure .none
    | some related =>
      exact Paired.bind
        (onState_paired search.reg (h.postProcess element annot _ _ (bears annot mem) related))
        fun result result' back => Paired.pure (.some back)

/-- Whole searches are in step. -/
theorem searchFrom (element : Element) (depth : Nat) :
    InStep search.reg R (Q element)
      ((search.caching keep).searchFrom kind target proc element depth)
      ((search.caching keep').searchFrom kind target proc' element depth) :=
  fun _ _ tied => (h.parallel keep keep').searchElement
    (fun _ _ hd _ depth _ bears => h.inAnnots keep keep' hd bears depth) search.fuel element depth _ _
    ⟨rfl, tied.interfaces, tied.interfaces', tied.state⟩

end Paces
end Search

namespace Registry

variable {reg : Registry} {annot : Annot}

/-- An annotation that some element declares. -/
def Gives (reg : Registry) (annot : Annot) : Prop :=
  ∃ element annots, reg.declaredAnnots element = .ok annots ∧ annot ∈ annots

theorem mem_addInherited {hidden : List String} {found annots result : List Annot}
    (h : reg.addInherited hidden found annots = .ok result) (mem : annot ∈ result) :
    annot ∈ found ∨ annot ∈ annots := by
  induction annots generalizing found with
  | nil =>
    cases h
    exact .inl mem
  | cons first rest ih =>
    rw [addInherited_cons] at h
    split at h
    · exact (ih h).imp_right (.tail first)
    · obtain ⟨type, _, h⟩ := Outcome.bind_ok h
      rcases ih h with there | later
      · split at there
        · rcases List.mem_append.1 there with before | here
          · exact .inl before
          · cases List.mem_singleton.1 here
            exact .inr (.head rest)
        · exact .inl there
      · exact .inr (.tail first later)

/-- What a class takes over is declared on a class above. -/
theorem gives_of_inherited {name : String} {annots : List Annot}
    (h : reg.inheritedAnnots name = .ok annots) (mem : annot ∈ annots) : reg.Gives annot := by
  obtain ⟨decl, _, h⟩ := Outcome.bind_ok h
  have walk (aboves : List String) (found : List Annot) (sub : ∀ annot ∈ found, reg.Gives annot)
      (h : aboves.foldlM (fun found above => do
        reg.addInherited (decl.annots.map fun annot : Annot => annot.type) found
          (← reg.classDecl above).annots) found = .ok annots) : reg.Gives annot := by
    induction aboves generalizing found with
    | nil =>
      cases h
      exact sub annot mem
    | cons above rest ih =>
      rw [List.foldlM_cons] at h
      obtain ⟨middle, step, h⟩ := Outcome.bind_ok h
      obtain ⟨there, known, step⟩ := Outcome.bind_ok step
      refine ih middle (fun other inside => ?_) h
      rcases mem_addInherited step inside with before | own
      · exact sub other before
      · refine ⟨.classLike above, there.annots, ?_, own⟩
        rw [declaredAnnots, known]
        rfl
  exact walk _ [] (by simp) h

end Registry

theorem Search.Bears.gives {search : Search} {kind : SearchKind} {element : Element} {annot : Annot}
    (h : search.Bears kind element annot) : search.reg.Gives annot := by
  rcases h.there with ⟨annots, known, mem⟩ | ⟨name, annots, _, _, known, mem⟩
  · exact ⟨element, annots, known, mem⟩
  · exact Registry.gives_of_inherited known mem

/-- An annotation on an annotation type is a meta-annotation of it. -/
theorem Search.Bears.metaPresent {search : Search} {kind : SearchKind} {name : String} {annot : Annot}
    (h : search.Bears kind (.annotType name) annot) :
    search.reg.isMetaPresent name annot.type = true := by
  rcases h.there with ⟨annots, known, mem⟩ | ⟨_, _, _, same, _⟩
  · obtain ⟨decl, found, made⟩ := Outcome.bind_ok known
    cases made
    refine Registry.isMetaPresent_iff.2 (.step ?_)
    rw [Registry.metaGraph_next, found]
    exact List.mem_map_of_mem mem
  · cases same

end Annotations
