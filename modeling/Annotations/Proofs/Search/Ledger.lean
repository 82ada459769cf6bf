import Annotations.Proofs.Search.Filled
import Annotations.Proofs.Search.Trail
import Annotations.Search.Recorder

/-!
What a search hands to its processor. Written down beside the processor's state, it changes nothing
in what the search does. A step hands over annotations of elements that it meets and of the one it
is at, so with each element expanded once, an annotation written there or taken over is handed over
once, and only one result comes back through the element.
-/
namespace Annotations

open Annotations.Action

variable {σ τ ρ : Type}

/-- The same processor with all that it is given written down beside its state. -/
def Processor.logging (proc : Processor σ ρ) : Processor (σ × List Given) ρ where
  process element annot depth :=
    (proc.process element annot depth).beside (· ++ [.candidate element annot depth])
  postProcess element annot result :=
    (proc.postProcess element annot result).beside (· ++ [.passed element annot])

namespace Given

/-- The annotation of an element that was handed over as a candidate. -/
def candidateOn (there : Element) : Given → Option Annot
  | .candidate element annot _ => if element = there then some annot else none
  | .passed _ _ => none

/-- The annotation of an element through which a result came back. -/
def passedOn (there : Element) : Given → Option Annot
  | .candidate _ _ _ => none
  | .passed element annot => if element = there then some annot else none

end Given

/-- A walk with something kept beside the processor's state. -/
def Walk.keeping (walk : Walk σ) (kept : τ) : Walk (σ × τ) :=
  { walk with state := (walk.state, kept) }

@[simp] theorem Walk.keeping_visited (walk : Walk σ) (kept : τ) :
    (walk.keeping kept).visited = walk.visited := rfl

@[simp] theorem Walk.keeping_interfaces (walk : Walk σ) (kept : τ) :
    (walk.keeping kept).interfaces = walk.interfaces := rfl

@[simp] theorem Walk.keeping_events (walk : Walk σ) (kept : τ) :
    (walk.keeping kept).events = walk.events := rfl

namespace Search

/-- A step and the same step with something kept beside the processor's state end alike. -/
def Unmoved (τ : Type) (f : Action (Walk σ) (Option ρ)) (g : Action (Walk (σ × τ)) (Option ρ)) :
    Prop :=
  ∀ walk kept, ∃ kept', g (walk.keeping kept) = ((f walk).1, (f walk).2.keeping kept')

theorem Unmoved.inTurn : Walk.InTurn (Unmoved (σ := σ) (ρ := ρ) τ) where
  none _ kept := ⟨kept, rfl⟩
  orElse {f f' g g'} first second := by
    intro walk kept
    obtain ⟨kept', same⟩ := first walk kept
    simp only [Walk.orElse, bind_apply, same]
    generalize f walk = ends
    rcases ends with ⟨_ | _ | _, after⟩
    · exact ⟨kept', rfl⟩
    · exact second after kept'
    · exact ⟨kept', rfl⟩

/-- Ending alike beside what is kept goes through all the ways in which a search puts steps
together. -/
theorem unmoved_parallel (search : Search) (keep : Bool) :
    search.Parallel keep keep (fun _ => Unmoved (σ := σ) (ρ := ρ) τ) where
  inTurn _ := Unmoved.inTurn
  asking {_ outcome _ k l} _ steps := by
    intro walk kept
    simp only [bind_apply, lift_apply]
    cases outcome with
    | ok a => exact steps a rfl walk kept
    | error e => exact ⟨kept, rfl⟩
  askingInterface {_ k l} name steps := by
    intro walk kept
    obtain ⟨answer, apply⟩ := (search.caching keep).hasAnnotatedMethods_apply name
    simp only [bind_apply, apply, Walk.keeping_interfaces, Walk.keeping_events]
    generalize answer walk.interfaces walk.events = answered
    obtain ⟨e | annotated, interfaces, events⟩ := answered
    · exact ⟨kept, rfl⟩
    · exact steps _ { walk with interfaces, events } kept
  enter {element f g} step := by
    intro walk kept
    by_cases seen : element ∈ walk.visited
    · have seen' : element ∈ (walk.keeping kept).visited := seen
      rw [Walk.visit_of_mem seen, Walk.visit_of_mem seen']
      exact ⟨kept, rfl⟩
    · have fresh : element ∉ (walk.keeping kept).visited := seen
      rw [Walk.visit_of_not_mem seen, Walk.visit_of_not_mem fresh]
      obtain ⟨kept', same⟩ := step { walk with visited := element :: walk.visited } kept
      have same : g { walk.keeping kept with visited := element :: (walk.keeping kept).visited } = _ :=
        same
      simp only [Walk.recover, same]
      generalize f _ = ends
      obtain ⟨e | result, after⟩ := ends
      · dsimp only
        split <;> exact ⟨kept', rfl⟩
      · exact ⟨kept', rfl⟩
  move _ step := step

variable {search : Search} {kind : SearchKind} {target : String} {proc : Processor σ ρ}

theorem Unmoved.inAnnots {descend : Descend σ ρ} {descend' : Descend (σ × List Given) ρ}
    (hd : ∀ element depth, Unmoved (List Given) (descend element depth) (descend' element depth))
    (element : Element) (depth : Nat) (annots : List Annot) :
    Unmoved (List Given) (search.inAnnots target proc descend element depth annots)
      (search.inAnnots target proc.logging descend' element depth annots) := by
  refine Unmoved.inTurn.inAnnots rfl (fun annot _ => ?_) fun annot _ walk kept => ?_
  · unfold offer
    split
    · exact fun walk kept => ⟨_, rfl⟩
    · exact fun walk kept => ⟨kept, rfl⟩
  · obtain ⟨kept', same⟩ := hd (.annotType annot.type) (depth + 1) walk kept
    simp only [ascend, bind_apply, same]
    generalize descend _ _ walk = ends
    rcases ends with ⟨_ | _ | result, after⟩
    · exact ⟨kept', rfl⟩
    · exact ⟨kept', rfl⟩
    · refine ⟨kept' ++ [.passed element annot], ?_⟩
      simp only [Walk.onState, bind_apply, Processor.logging, Action.beside, Walk.keeping]
      generalize proc.postProcess element annot result after.state = back
      obtain ⟨_ | _, state⟩ := back <;> rfl

/-- A search finds what it finds without a log. -/
theorem searchElement_unmoved (fuel : Nat) (element : Element) (depth : Nat) :
    Unmoved (List Given) (search.searchElement kind target proc fuel element depth)
      (search.searchElement kind target proc.logging fuel element depth) :=
  (search.unmoved_parallel search.settings.cacheEnabled).searchElement
    (fun _ _ hd element depth annots _ => .inAnnots hd element depth annots) fuel element depth

/-- The annotations written on an element, none if it is not known. -/
def written (search : Search) (element : Element) : List Annot :=
  (search.reg.declaredAnnots element).toOption.getD []

/-- The annotations that a get search takes a class to inherit. -/
def inherited (search : Search) : SearchKind → Element → List Annot
  | .get, .classLike name => (search.reg.inheritedAnnots name).toOption.getD []
  | _, _ => []

/-- The annotations of an element among the candidates of a log. -/
def handedOn (there : Element) (log : List Given) : List Annot :=
  log.filterMap (Given.candidateOn there)

/-- The annotations of an element among those of a log that a result came back through. -/
def backOn (there : Element) (log : List Given) : List Annot :=
  log.filterMap (Given.passedOn there)

@[simp] theorem handedOn_append (there : Element) (log log' : List Given) :
    handedOn there (log ++ log') = handedOn there log ++ handedOn there log' :=
  List.filterMap_append

@[simp] theorem backOn_append (there : Element) (log log' : List Given) :
    backOn there (log ++ log') = backOn there log ++ backOn there log' :=
  List.filterMap_append

/-- A log has nothing of an element. -/
structure Bare (log : List Given) (there : Element) : Prop where
  handed : handedOn there log = []
  back : backOn there log = []

theorem Bare.nil (there : Element) : Bare [] there := ⟨rfl, rfl⟩

theorem Bare.append {log log' : List Given} {there : Element} (h : Bare log there)
    (h' : Bare log' there) : Bare (log ++ log') there := by
  constructor
  · rw [handedOn_append, h.handed, h'.handed, List.append_nil]
  · rw [backOn_append, h.back, h'.back, List.append_nil]

/-- A log has no more of an element than some annotations as candidates, each once and in their
order, and one result coming back. -/
structure Fair (annots : List Annot) (log : List Given) (there : Element) : Prop where
  handed : (handedOn there log).Sublist annots
  back : (backOn there log).length ≤ 1

theorem Bare.fair {log : List Given} {there : Element} (h : Bare log there) (annots : List Annot) :
    Fair annots log there := by
  constructor
  · rw [h.handed]
    exact List.nil_sublist annots
  · rw [h.back]
    exact Nat.zero_le 1

theorem Bare.fair_append {annots : List Annot} {log log' : List Given} {there : Element}
    (h : Bare log there) (h' : Fair annots log' there) : Fair annots (log ++ log') there := by
  constructor
  · rw [handedOn_append, h.handed]
    exact h'.handed
  · rw [backOn_append, h.back]
    exact h'.back

theorem Fair.append_bare {annots : List Annot} {log log' : List Given} {there : Element}
    (h : Fair annots log there) (h' : Bare log' there) : Fair annots (log ++ log') there := by
  constructor
  · rw [handedOn_append, h'.handed, List.append_nil]
    exact h.handed
  · rw [backOn_append, h'.back, List.append_nil]
    exact h.back

/-- What a step adds while some element is under expansion, if any: elements newly met, and a log
that is fair to them, has no more of that element than some annotations and nothing of any other. A
result that came back through it is what the step ends with, or its failure does. -/
structure Adds (search : Search) (kind : SearchKind) (here : Option Element) (annots : List Annot)
    (walk : Walk (σ × List Given)) (ends : Except Error (Option ρ) × Walk (σ × List Given))
    (met : List Element) (log : List Given) : Prop where
  visited : ends.2.visited = met ++ walk.visited
  logged : ends.2.state.2 = walk.state.2 ++ log
  distinct : ends.2.visited.Nodup
  fair : ∀ there ∈ met, Fair (search.written there ++ search.inherited kind there) log there
  unmet : ∀ there ∉ ends.2.visited, Bare log there
  before : ∀ there ∈ walk.visited, here ≠ some there → Bare log there
  here : ∀ there, here = some there →
    Fair annots log there ∧ (ends.1 = .ok none → backOn there log = [])

/-- A step adds in this way to all walks that have met the element under expansion. -/
def Spends (search : Search) (kind : SearchKind) (here : Option Element) (annots : List Annot)
    (f : Action (Walk (σ × List Given)) (Option ρ)) : Prop :=
  ∀ walk, walk.visited.Nodup → (∀ there, here = some there → there ∈ walk.visited) →
    ∃ met log, search.Adds kind here annots walk (f walk) met log

variable {here : Option Element} {annots annots' : List Annot} {element : Element}

/-- A step that meets nothing and hands nothing over. -/
theorem Adds.idle {walk : Walk (σ × List Given)}
    {ends : Except Error (Option ρ) × Walk (σ × List Given)} (distinct : walk.visited.Nodup)
    (visited : ends.2.visited = walk.visited) (logged : ends.2.state.2 = walk.state.2) :
    search.Adds kind here annots walk ends [] [] where
  visited := visited
  logged := by rw [logged, List.append_nil]
  distinct := visited ▸ distinct
  fair _ mem := by cases mem
  unmet there _ := .nil there
  before there _ _ := .nil there
  here there _ := ⟨(Bare.nil there).fair annots, fun _ => rfl⟩

/-- One step after another that found nothing. -/
theorem Adds.trans {walk mid : Walk (σ × List Given)}
    {ends : Except Error (Option ρ) × Walk (σ × List Given)} {met met' : List Element}
    {log log' : List Given} (within : ∀ there, here = some there → there ∈ walk.visited)
    (h : search.Adds kind here annots walk ((.ok none : Except Error (Option ρ)), mid) met log)
    (h' : search.Adds kind here annots' mid ends met' log') :
    search.Adds kind here (annots ++ annots') walk ends (met' ++ met) (log ++ log') := by
  have grown : ends.2.visited = met' ++ (met ++ walk.visited) := by
    rw [h'.visited]
    exact congrArg (met' ++ ·) h.visited
  have apart := List.nodup_append.1 (h'.visited ▸ h'.distinct)
  have apartMid := List.nodup_append.1 (h.visited ▸ h.distinct)
  have midMet {there : Element} : there ∈ mid.visited ↔ there ∈ met ++ walk.visited := by
    rw [show mid.visited = met ++ walk.visited from h.visited]
  refine ⟨by rw [grown, List.append_assoc], ?_, h'.distinct, ?_, ?_, ?_, ?_⟩
  · rw [h'.logged, ← List.append_assoc]
    exact congrArg (· ++ log') h.logged
  · intro there mem
    rcases List.mem_append.1 mem with later | sooner
    · have fresh : there ∉ mid.visited := fun old => apart.2.2 there later there old rfl
      exact (h.unmet there fresh).fair_append (h'.fair there later)
    · have apartHere : here ≠ some there := fun same =>
        apartMid.2.2 there sooner there (within there same) rfl
      have old : there ∈ mid.visited := midMet.2 (List.mem_append_left _ sooner)
      exact (h.fair there sooner).append_bare (h'.before there old apartHere)
  · intro there fresh
    rw [h'.visited] at fresh
    have fresh' : there ∉ mid.visited := fun old => fresh (List.mem_append_right _ old)
    exact (h.unmet there fresh').append (h'.unmet there (h'.visited ▸ fresh))
  · intro there mem apartHere
    have old : there ∈ mid.visited := midMet.2 (List.mem_append_right _ mem)
    exact (h.before there mem apartHere).append (h'.before there old apartHere)
  · intro there same
    obtain ⟨first, nothing⟩ := h.here there same
    obtain ⟨second, nothing'⟩ := h'.here there same
    refine ⟨⟨?_, ?_⟩, fun found => ?_⟩
    · rw [handedOn_append]
      exact first.handed.append second.handed
    · rw [backOn_append, nothing rfl]
      exact second.back
    · rw [backOn_append, nothing rfl, nothing' found]
      rfl

/-- What adds nothing to elements met before adds nothing to one under expansion. -/
theorem Adds.within {walk : Walk (σ × List Given)}
    {ends : Except Error (Option ρ) × Walk (σ × List Given)} {met : List Element}
    {log : List Given} (h : search.Adds kind none [] walk ends met log)
    (within : ∀ there, here = some there → there ∈ walk.visited) (outcome : Except Error (Option ρ)) :
    search.Adds kind here [] walk (outcome, ends.2) met log where
  visited := h.visited
  logged := h.logged
  distinct := h.distinct
  fair := h.fair
  unmet := h.unmet
  before there mem _ := h.before there mem (by simp)
  here there same := by
    have bare := h.before there (within there same) (by simp)
    exact ⟨bare.fair [], fun _ => bare.back⟩

/-- The same on the way back of a result through the element under expansion. -/
theorem Adds.back {walk : Walk (σ × List Given)}
    {ends ends' : Except Error (Option ρ) × Walk (σ × List Given)} {met : List Element}
    {log : List Given} (h : search.Adds kind none [] walk ends met log)
    (within : element ∈ walk.visited) (annot : Annot) (found : ends'.1 ≠ .ok none)
    (visited : ends'.2.visited = ends.2.visited)
    (logged : ends'.2.state.2 = ends.2.state.2 ++ [.passed element annot]) :
    search.Adds kind (some element) [] walk ends' met (log ++ [.passed element annot]) := by
  have bare {there : Element} (apart : element ≠ there) : Bare [.passed element annot] there := by
    constructor <;> simp [handedOn, backOn, Given.candidateOn, Given.passedOn, apart]
  have here := h.before element within (by simp)
  have apart := List.nodup_append.1 (h.visited ▸ h.distinct)
  refine ⟨visited.trans h.visited, ?_, ?_, fun there mem => ?_, fun there fresh => ?_,
    fun there mem apartHere => ?_, fun there same => ?_⟩
  · rw [logged, ← List.append_assoc]
    exact congrArg (· ++ _) h.logged
  · rw [visited]
    exact h.distinct
  · have fresh : element ≠ there := fun same => apart.2.2 there mem element within same.symm
    exact (h.fair there mem).append_bare (bare fresh)
  · rw [visited] at fresh
    refine (h.unmet there fresh).append (bare fun same => fresh ?_)
    rw [← same, h.visited]
    exact List.mem_append_right _ within
  · exact (h.before there mem (by simp)).append (bare fun same => apartHere (congrArg some same))
  · cases same
    refine ⟨here.fair_append ⟨?_, ?_⟩, fun nothing => absurd nothing found⟩ <;>
      simp [handedOn, backOn, Given.candidateOn, Given.passedOn]

theorem Adds.mono {walk : Walk (σ × List Given)}
    {ends : Except Error (Option ρ) × Walk (σ × List Given)} {met : List Element}
    {log : List Given} (h : search.Adds kind here annots walk ends met log)
    (sub : annots.Sublist annots') : search.Adds kind here annots' walk ends met log where
  visited := h.visited
  logged := h.logged
  distinct := h.distinct
  fair := h.fair
  unmet := h.unmet
  before := h.before
  here there same :=
    ⟨⟨(h.here there same).1.handed.trans sub, (h.here there same).1.back⟩, (h.here there same).2⟩

namespace Spends

variable {f g : Action (Walk (σ × List Given)) (Option ρ)}

theorem none : search.Spends kind here annots (pure .none : Action (Walk (σ × List Given)) (Option ρ)) :=
  fun _ distinct _ => ⟨[], [], .idle distinct rfl rfl⟩

theorem mono (h : search.Spends kind here annots f) (sub : annots.Sublist annots') :
    search.Spends kind here annots' f := by
  intro walk distinct within
  obtain ⟨met, log, adds⟩ := h walk distinct within
  exact ⟨met, log, adds.mono sub⟩

/-- What adds nothing to elements met before adds nothing to one under expansion. -/
theorem of_none (h : search.Spends kind .none [] f) : search.Spends kind (some element) [] f := by
  intro walk distinct within
  obtain ⟨met, log, adds⟩ := h walk distinct (by simp)
  exact ⟨met, log, adds.within within _⟩

theorem asking {α : Type} {outcome : Except Error α}
    {k : α → Action (Walk (σ × List Given)) (Option ρ)}
    (h : ∀ a, outcome = .ok a → search.Spends kind here annots (k a)) :
    search.Spends kind here annots (liftM outcome >>= k) := by
  intro walk distinct within
  simp only [bind_apply, lift_apply]
  cases outcome with
  | ok a => exact h a rfl walk distinct within
  | error e => exact ⟨[], [], .idle distinct rfl rfl⟩

theorem orElse (h : search.Spends kind here annots f) (h' : search.Spends kind here annots' g) :
    search.Spends kind here (annots ++ annots') (Walk.orElse f g) := by
  intro walk distinct within
  obtain ⟨met, log, adds⟩ := h walk distinct within
  have ended := adds.mono (List.sublist_append_left annots annots')
  simp only [Walk.orElse, bind_apply]
  generalize f walk = ends at adds ended
  rcases ends with ⟨e | _ | result, mid⟩
  · exact ⟨met, log, ended⟩
  · have visited : mid.visited = met ++ walk.visited := adds.visited
    obtain ⟨met', log', adds'⟩ := h' mid adds.distinct fun there same => by
      rw [visited]
      exact List.mem_append_right _ (within there same)
    exact ⟨met' ++ met, log ++ log', adds.trans within adds'⟩
  · exact ⟨met, log, ended⟩

theorem firstSome {α : Type} {items : List α}
    {step : α → Action (Walk (σ × List Given)) (Option ρ)} {spent : α → List Annot}
    (h : ∀ item ∈ items, search.Spends kind here (spent item) (step item)) :
    search.Spends kind here (items.flatMap spent) (Walk.firstSome step items) := by
  induction items with
  | nil => exact .none
  | cons item rest ih =>
    have first := h item (.head rest)
    have later := ih fun other mem => h other (.tail item mem)
    exact first.orElse later

/-- An element that is entered is newly met, and all that its expansion may add is fair to it. -/
theorem enter (h : search.Spends kind (some element) (search.written element ++ search.inherited kind element) f) :
    search.Spends kind .none [] (Walk.visit element (Walk.recover element f)) := by
  intro walk distinct _
  by_cases seen : element ∈ walk.visited
  · rw [Walk.visit_of_mem seen]
    exact ⟨[], [], .idle distinct rfl rfl⟩
  · rw [Walk.visit_of_not_mem seen]
    obtain ⟨met, log, adds⟩ := h { walk with visited := element :: walk.visited }
      (List.nodup_cons.2 ⟨seen, distinct⟩) (fun there same => by cases same; exact .head _)
    have left : ∀ outcome : Except Error (Option ρ), ∀ after : Walk (σ × List Given),
        after.visited = (f { walk with visited := element :: walk.visited }).2.visited →
        after.state = (f { walk with visited := element :: walk.visited }).2.state →
        search.Adds kind .none [] walk (outcome, after) (met ++ [element]) log := by
      intro outcome after visited state
      refine ⟨?_, ?_, ?_, ?_, ?_, ?_, fun _ same => by cases same⟩
      · rw [visited, adds.visited, List.append_assoc]
        rfl
      · rw [state]
        exact adds.logged
      · rw [visited]
        exact adds.distinct
      · intro there mem
        rcases List.mem_append.1 mem with mem | mem
        · exact adds.fair there mem
        · cases List.mem_singleton.1 mem
          exact (adds.here element rfl).1
      · intro there fresh
        rw [visited] at fresh
        exact adds.unmet there fresh
      · intro there mem _
        refine adds.before there (.tail _ mem) fun same => ?_
        cases same
        exact seen mem
    simp only [Walk.recover]
    generalize f _ = ends at left
    obtain ⟨e | result, after⟩ := ends
    · dsimp only
      split
      · exact ⟨_, _, left _ _ rfl rfl⟩
      · exact ⟨_, _, left _ _ rfl rfl⟩
    · exact ⟨_, _, left _ _ rfl rfl⟩

end Spends

/-- Adding nothing to elements met before is kept by all the ways in which a search puts steps
together. -/
theorem spends_parallel (search : Search) (kind : SearchKind) (keep : Bool) :
    search.Parallel keep keep
      (fun _ (f _ : Action (Walk (σ × List Given)) (Option ρ)) => search.Spends kind .none [] f) where
  inTurn _ := ⟨.none, .orElse⟩
  asking _ steps := .asking steps
  askingInterface {_ k l} name steps := by
    intro walk distinct within
    obtain ⟨answer, apply⟩ := (search.caching keep).hasAnnotatedMethods_apply name
    simp only [bind_apply, apply]
    generalize answer walk.interfaces walk.events = answered
    obtain ⟨e | annotated, interfaces, events⟩ := answered
    · exact ⟨[], [], .idle distinct rfl rfl⟩
    · obtain ⟨met, log, adds⟩ := steps annotated { walk with interfaces, events } distinct within
      exact ⟨met, log, adds.visited, adds.logged, adds.distinct, adds.fair, adds.unmet, adds.before,
        adds.here⟩
  enter step := .enter (step.of_none.mono (List.nil_sublist _))
  move _ step := step

section

variable {descend : Descend (σ × List Given) ρ}
  (hd : ∀ element depth, search.Spends kind .none [] (descend element depth))

theorem offer_spends (depth : Nat) (annot : Annot) :
    search.Spends kind (some element) [annot] (offer target proc.logging element depth annot) := by
  unfold offer
  split
  · intro walk distinct within
    have bare {there : Element} (apart : element ≠ there) :
        Bare [.candidate element annot depth] there := by
      constructor <;> simp [handedOn, backOn, Given.candidateOn, Given.passedOn, apart]
    refine ⟨[], [.candidate element annot depth], ⟨rfl, rfl, distinct, by simp,
      fun there fresh => ?_, fun there _ apart => ?_, fun there same => ?_⟩⟩
    · refine bare fun same => fresh ?_
      exact same ▸ within element rfl
    · exact bare fun same => apart (congrArg some same)
    · cases same
      have handed : handedOn element [.candidate element annot depth] = [annot] := by
        simp [handedOn, Given.candidateOn]
      exact ⟨⟨handed ▸ List.Sublist.refl _, Nat.zero_le 1⟩, fun _ => rfl⟩
  · exact .none

include hd

theorem ascend_spends (depth : Nat) (annot : Annot) :
    search.Spends kind (some element) [] (ascend proc.logging descend element depth annot) := by
  intro walk distinct within
  obtain ⟨met, log, adds⟩ := hd (.annotType annot.type) (depth + 1) walk distinct (by simp)
  simp only [ascend, bind_apply]
  generalize descend _ _ walk = ends at adds
  rcases ends with ⟨e | _ | result, after⟩
  · exact ⟨met, log, adds.within within _⟩
  · exact ⟨met, log, adds.within within _⟩
  · refine ⟨met, log ++ [.passed element annot], adds.back (within element rfl) annot ?_ ?_ ?_⟩
    all_goals
      simp only [Walk.onState, bind_apply, Processor.logging, Action.beside]
      generalize proc.postProcess element annot result after.state.1 = back
      obtain ⟨_ | _, state⟩ := back <;> simp

theorem inAnnots_spends (depth : Nat) (annots : List Annot) :
    search.Spends kind (some element) annots
      (search.inAnnots target proc.logging descend element depth annots) := by
  have offers : search.Spends kind (some element) _
      (Walk.firstSome (offer target proc.logging element depth) (search.candidates annots)) :=
    .firstSome fun annot _ => offer_spends depth annot
  have ascends : search.Spends kind (some element) _
      (Walk.firstSome (ascend proc.logging descend element depth) (search.candidates annots)) :=
    .firstSome fun annot _ => ascend_spends hd depth annot
  refine (offers.orElse ascends).mono ?_
  simp only [List.flatMap_singleton', List.flatMap_eq_nil_iff.2 fun _ _ => rfl, List.append_nil]
  exact List.filter_sublist

theorem beyond_spends (depth : Nat) :
    search.Spends kind (some element) (search.inherited kind element)
      (search.beyond kind target proc.logging descend element depth) := by
  have par := search.spends_parallel (σ := σ) (ρ := ρ) kind search.settings.cacheEnabled
  cases kind with
  | get =>
    cases element with
    | classLike name =>
      refine .asking fun annots known => ?_
      have known : search.reg.inheritedAnnots name = .ok annots := known
      simp only [inherited, known]
      exact inAnnots_spends hd depth annots
    | method ref => exact .none
    | annotType name => exact .none
  | find =>
    cases element with
    | classLike name =>
      have added := @Parallel.onClass _ _ _ _ _ _ _ _ descend descend (.classLike name) par hd rfl name
        depth
      exact added.of_none
    | method ref =>
      have added := @Parallel.onMethod _ _ _ _ _ _ _ _ descend descend (.method ref) par hd rfl ref
        depth
      exact added.of_none
    | annotType name => exact .none

theorem expand_spends (depth : Nat) :
    search.Spends kind (some element) (search.written element ++ search.inherited kind element)
      (search.expand kind target proc.logging descend element depth) := by
  refine .asking fun _ _ => .asking fun annots known => ?_
  have known : search.reg.declaredAnnots element = .ok annots := known
  unfold written
  rw [known]
  exact (inAnnots_spends hd depth annots).orElse (beyond_spends hd depth)

end

theorem searchElement_spends (fuel : Nat) (element : Element) (depth : Nat) :
    search.Spends kind none [] (search.searchElement kind target proc.logging fuel element depth) := by
  induction fuel generalizing element depth with
  | zero => exact .none
  | succ fuel ih => exact (expand_spends ih depth).enter

/-- A search ends before its fuel does, whatever stands at the end of it, and expands no element
twice. So what it hands over on an element is, each once and in this order, among what is written
there and what a get search takes it to inherit, and at most one result comes back through it. -/
theorem searchFrom_expands_once (search : Search) (kind : SearchKind) (target : String)
    (proc : Processor σ ρ) (bottom : Descend σ ρ) (element : Element) (depth : Nat)
    (walk : Walk σ) :
    search.filled bottom kind target proc search.fuel element depth { walk with visited := [] } =
        search.searchFrom kind target proc element depth walk ∧
      (search.searchFrom kind target proc element depth walk).2.visited.Nodup ∧
      ∃ log, search.searchFrom kind target proc.logging element depth (walk.keeping []) =
          ((search.searchFrom kind target proc element depth walk).1,
            (search.searchFrom kind target proc element depth walk).2.keeping log) ∧
        ∀ there,
          (handedOn there log).Sublist (search.written there ++ search.inherited kind there) ∧
          (backOn there log).length ≤ 1 := by
  have filled : SameFrom [] (search.filled bottom kind target proc search.fuel element depth)
      (search.searchElement kind target proc search.fuel element depth) :=
    filled_sameFrom bottom search.fuel List.nodup_nil (by simp) (by simp) element depth
  have unmoved : Unmoved (List Given)
      (search.searchElement kind target proc search.fuel element depth)
      (search.searchElement kind target proc.logging search.fuel element depth) :=
    searchElement_unmoved search.fuel element depth
  have spends : search.Spends kind none []
      (search.searchElement kind target proc.logging search.fuel element depth) :=
    searchElement_spends search.fuel element depth
  have full := filled { walk with visited := [] } (List.nil_subset _)
  obtain ⟨log, logged⟩ := unmoved { walk with visited := [] } []
  obtain ⟨met, log', adds⟩ := spends (Walk.keeping { walk with visited := [] } []) List.nodup_nil
    (by simp)
  have same : log = log' := by
    have end' := adds.logged
    rw [logged] at end'
    exact end'
  subst same
  have distinct := adds.distinct
  rw [logged] at distinct
  refine ⟨full.1, distinct, log, logged, fun there => ?_⟩
  have fair : Fair (search.written there ++ search.inherited kind there) log there := by
    by_cases mem : there ∈ met
    · exact adds.fair there mem
    · refine (adds.unmet there fun visited => mem ?_).fair _
      rw [adds.visited] at visited
      exact (List.append_nil met) ▸ visited
  exact ⟨fair.handed, fair.back⟩

end Search
end Annotations
