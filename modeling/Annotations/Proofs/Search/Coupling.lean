import Annotations.Proofs.Action.Coupled
import Annotations.Proofs.Search.Parallel

/-!
Two searches over one registry, each with a processor of its own and with or without answers about
interfaces kept. If the processors act alike on every candidate and on every result that comes back,
the searches find alike: the same elements, no result or results that fit, or the same error.
-/
namespace Annotations

open Annotations.Action

variable {σ τ ρ ρ' α : Type}

/-- What ties two processors: their states between steps, their results at an element, their states
after a failure that ends a search, and what is known of a candidate that neither takes. -/
structure Coupling (σ τ ρ ρ' : Type) where
  rest : σ → τ → Prop
  result : Element → ρ → ρ' → σ → τ → Prop
  failed : Error → σ → τ → Prop
  passed : Annot → Prop

namespace Coupling

variable (C : Coupling σ τ ρ ρ')

/-- The end of a step that has a result at an element or, with a fact learned from it, none. -/
def found (element : Element) (learned : Prop) : Option ρ → Option ρ' → σ → τ → Prop
  | none, none => fun s t => learned ∧ C.rest s t
  | some r, some r' => C.result element r r'
  | _, _ => fun _ _ => False

/-- The end of a failed step; only configuration errors end a search. -/
def stopped (e : Error) (s : σ) (t : τ) : Prop :=
  if e.isConfiguration then C.failed e s t else C.rest s t

end Coupling

/-- Every kept answer about an interface is the registry's own. -/
def Registry.InterfacesSound (reg : Registry) (table : Entries Bool) : Prop :=
  ∀ name answer, table.get? name = some answer → reg.hasAnnotatedMethods name = .ok answer

theorem Registry.InterfacesSound.empty (reg : Registry) : reg.InterfacesSound [] :=
  fun _ _ h => by simp at h

/-- Two walks that have met the same elements and whose processors are tied. -/
structure Walk.Tied (reg : Registry) (R : σ → τ → Prop) (left : Walk σ) (right : Walk τ) :
    Prop where
  visited : left.visited = right.visited
  interfaces : reg.InterfacesSound left.interfaces
  interfaces' : reg.InterfacesSound right.interfaces
  state : R left.state right.state

theorem Walk.Tied.imp {reg : Registry} {R R' : σ → τ → Prop} {left : Walk σ} {right : Walk τ}
    (h : Walk.Tied reg R left right) (hr : R left.state right.state → R' left.state right.state) :
    Walk.Tied reg R' left right :=
  ⟨h.visited, h.interfaces, h.interfaces', hr h.state⟩

/-- Two steps of a search at an element that find alike. -/
def Coupling.Seeks (C : Coupling σ τ ρ ρ') (reg : Registry) (element : Element) (learned : Prop)
    (f : Action (Walk σ) (Option ρ)) (g : Action (Walk τ) (Option ρ')) : Prop :=
  Coupled (Walk.Tied reg C.rest) (fun o o' => Walk.Tied reg (C.found element learned o o'))
    (fun e => Walk.Tied reg (C.stopped e)) f g

namespace Coupling.Seeks

variable {C : Coupling σ τ ρ ρ'} {reg : Registry} {element : Element} {learned learned' : Prop}

theorem none (h : learned) : C.Seeks reg element learned (pure .none) (pure .none) :=
  Coupled.pure fun _ _ tied => tied.imp fun rest => ⟨h, rest⟩

theorem imp {f : Action (Walk σ) (Option ρ)} {g : Action (Walk τ) (Option ρ')}
    (h : C.Seeks reg element learned f g) (hl : learned → learned') :
    C.Seeks reg element learned' f g := by
  refine Coupled.mono h fun o o' _ _ fits => fits.imp fun state => ?_
  cases o <;> cases o'
  case none.none => exact ⟨hl state.1, state.2⟩
  all_goals exact state

/-- A question to the registry that fails does so harmlessly and for both. -/
theorem asking {outcome : Except Error α} (harmless : Registry.Harmless outcome)
    {k : α → Action (Walk σ) (Option ρ)} {l : α → Action (Walk τ) (Option ρ')}
    (h : ∀ a, outcome = .ok a → C.Seeks reg element learned (k a) (l a)) :
    C.Seeks reg element learned (liftM outcome >>= k) (liftM outcome >>= l) := by
  intro w w' tied
  rw [bind_apply, bind_apply, lift_apply, lift_apply]
  cases outcome with
  | ok a => exact h a rfl w w' tied
  | error e =>
    refine .error (tied.imp fun rest => ?_)
    rw [Coupling.stopped, harmless e rfl]
    exact rest

theorem orElse {f f' : Action (Walk σ) (Option ρ)} {g g' : Action (Walk τ) (Option ρ')}
    (h : C.Seeks reg element learned f g) (h' : learned → C.Seeks reg element learned' f' g') :
    C.Seeks reg element learned' (Walk.orElse f f') (Walk.orElse g g') := by
  intro w w' tied
  have ends := h w w' tied
  simp only [Walk.orElse, bind_apply]
  generalize f w = left at ends
  generalize g w' = right at ends
  cases ends with
  | error fits => exact .error fits
  | @ok o o' v v' fits =>
    cases o <;> cases o'
    · exact h' fits.state.1 v v' (fits.imp And.right)
    · exact fits.state.elim
    · exact fits.state.elim
    · exact .ok fits

theorem firstSome {items : List α} {learned : α → Prop}
    {step : α → Action (Walk σ) (Option ρ)} {step' : α → Action (Walk τ) (Option ρ')}
    (h : ∀ item ∈ items, C.Seeks reg element (learned item) (step item) (step' item)) :
    C.Seeks reg element (∀ item ∈ items, learned item) (Walk.firstSome step items)
      (Walk.firstSome step' items) := by
  induction items with
  | nil => exact none (by simp)
  | cons item rest ih =>
    have first := h item (.head rest)
    have later := ih fun other mem => h other (.tail item mem)
    exact first.orElse fun here => later.imp fun all => List.forall_mem_cons.2 ⟨here, all⟩

/-- Where nothing is to be learned, finding alike goes over to steps tried in turn. -/
theorem inTurn : Walk.InTurn (C.Seeks reg element True) where
  none := .none trivial
  orElse first second := first.orElse fun _ => second

theorem recover {f : Action (Walk σ) (Option ρ)} {g : Action (Walk τ) (Option ρ')}
    (h : C.Seeks reg element True f g) :
    C.Seeks reg element True (Walk.recover element f) (Walk.recover element g) := by
  intro w w' tied
  have ends := h w w' tied
  simp only [Walk.recover]
  generalize f w = left at ends
  generalize g w' = right at ends
  cases ends with
  | ok fits => exact .ok fits
  | @error e v v' fits =>
    cases abort : e.isConfiguration with
    | true =>
      simp only [abort, if_true]
      exact .error fits
    | false =>
      simp only [abort, Bool.false_eq_true, if_false]
      refine .ok ⟨fits.visited, fits.interfaces, fits.interfaces', trivial, ?_⟩
      have state := fits.state
      rw [Coupling.stopped, abort] at state
      exact state

theorem visit {f : Action (Walk σ) (Option ρ)} {g : Action (Walk τ) (Option ρ')}
    (h : C.Seeks reg element True f g) :
    C.Seeks reg element True (Walk.visit element f) (Walk.visit element g) := by
  intro w w' tied
  simp only [Walk.visit, ← tied.visited]
  split
  · exact .ok (tied.imp fun rest => ⟨trivial, rest⟩)
  · exact h _ _ ⟨by simp only, tied.interfaces, tied.interfaces', tied.state⟩

end Coupling.Seeks

/-- Steps of two processors on their own states are steps of the walks. -/
theorem Walk.onState_coupled {α' : Type} (reg : Registry) {R : σ → τ → Prop}
    {Q : α → α' → σ → τ → Prop} {E : Error → σ → τ → Prop} {f : Action σ α} {g : Action τ α'}
    (h : Coupled R Q E f g) :
    Coupled (Walk.Tied reg R) (fun a a' => Walk.Tied reg (Q a a')) (fun e => Walk.Tied reg (E e))
      (Walk.onState f) (Walk.onState g) := by
  intro w w' tied
  have ends := h w.state w'.state tied.state
  simp only [Walk.onState]
  generalize f w.state = left at ends
  generalize g w'.state = right at ends
  cases ends with
  | ok fits => exact .ok ⟨tied.visited, tied.interfaces, tied.interfaces', fits⟩
  | error fits => exact .error ⟨tied.visited, tied.interfaces, tied.interfaces', fits⟩

namespace Search

/-- A question about an interface has the registry's answer, and what is kept stays right. -/
theorem hasAnnotatedMethods_learns (search : Search) (name : String) (walk : Walk σ)
    (sound : search.reg.InterfacesSound walk.interfaces) :
    ∃ interfaces events, search.reg.InterfacesSound interfaces ∧
      search.hasAnnotatedMethods name walk =
        (search.reg.hasAnnotatedMethods name, { walk with interfaces, events }) := by
  unfold hasAnnotatedMethods
  cases search.settings.cacheEnabled with
  | false =>
    refine ⟨walk.interfaces, walk.events, sound, ?_⟩
    simp only [Bool.not_false, if_true, lift_apply]
  | true =>
    simp only [Bool.not_true, Bool.false_eq_true, if_false, bind_apply, get_apply]
    cases known : walk.interfaces.get? name with
    | some answer =>
      refine ⟨walk.interfaces, .lookup .annotatedInterfaces true :: walk.events, sound, ?_⟩
      rw [sound name answer known]
      rfl
    | none =>
      simp only [bind_apply, modify_apply, lift_apply]
      cases right : search.reg.hasAnnotatedMethods name with
      | error e =>
        exact ⟨walk.interfaces, .lookup .annotatedInterfaces false :: walk.events, sound, rfl⟩
      | ok answer =>
        refine ⟨walk.interfaces.put name answer,
          .lookup .annotatedInterfaces false :: walk.events, fun other answer' => ?_, rfl⟩
        rw [Entries.get?_put]
        split
        · rintro ⟨⟩
          rename_i same
          rw [← same, right]
        · exact sound other answer'

/-- Both searches have the registry's answer about an interface. -/
theorem hasAnnotatedMethods_coupled (C : Coupling σ τ ρ ρ') (search : Search) (keep keep' : Bool)
    (name : String) :
    Coupled (Walk.Tied search.reg C.rest)
      (fun answer answer' w w' => answer = answer' ∧ Walk.Tied search.reg C.rest w w')
      (fun e => Walk.Tied search.reg (C.stopped e))
      ((search.caching keep).hasAnnotatedMethods name)
      ((search.caching keep').hasAnnotatedMethods name) := by
  intro w w' tied
  obtain ⟨table, events, sound, left⟩ :=
    (search.caching keep).hasAnnotatedMethods_learns name w tied.interfaces
  obtain ⟨table', events', sound', right⟩ :=
    (search.caching keep').hasAnnotatedMethods_learns name w' tied.interfaces'
  rw [left, right]
  simp only [caching]
  cases answer : search.reg.hasAnnotatedMethods name with
  | ok annotated => exact .ok ⟨rfl, tied.visited, sound, sound', tied.state⟩
  | error e =>
    refine .error ⟨tied.visited, sound, sound', ?_⟩
    rw [Coupling.stopped, search.reg.hasAnnotatedMethods_harmless name e answer]
    exact tied.state

/-- The processors act alike on every candidate of a search and on every result that comes back. -/
structure Couples (search : Search) (kind : SearchKind) (target : String) (C : Coupling σ τ ρ ρ')
    (proc : Processor σ ρ) (proc' : Processor τ ρ') : Prop where
  process : ∀ element annot depth, search.Bears kind element annot →
    depth > 0 ∨ annot.type = target →
    Coupled C.rest (C.found element (C.passed annot)) C.stopped
      (proc.process element annot depth) (proc'.process element annot depth)
  postProcess : ∀ element annot result result', search.Bears kind element annot → C.passed annot →
    Coupled (C.result (.annotType annot.type) result result') (C.result element) C.stopped
      (proc.postProcess element annot result) (proc'.postProcess element annot result')
  other : ∀ annot, annot.type ≠ target → C.passed annot
  move : ∀ element there result result' s t, element.isAnnotType = false →
    C.result there result result' s t → C.result element result result' s t

namespace Couples

variable {search : Search} {kind : SearchKind} {target : String} {C : Coupling σ τ ρ ρ'}
  {proc : Processor σ ρ} {proc' : Processor τ ρ'} (h : search.Couples kind target C proc proc')
  {descend : Descend σ ρ} {descend' : Descend τ ρ'} (keep keep' : Bool)

include h

theorem moves {element there : Element} {learned : Prop} (plain : element.isAnnotType = false)
    {f : Action (Walk σ) (Option ρ)} {g : Action (Walk τ) (Option ρ')}
    (hf : C.Seeks search.reg there learned f g) : C.Seeks search.reg element learned f g := by
  refine Coupled.mono hf fun o o' _ _ fits => fits.imp fun state => ?_
  cases o <;> cases o'
  case some.some => exact h.move element there _ _ _ _ plain state
  all_goals exact state

theorem offer {element : Element} {annot : Annot} (bears : search.Bears kind element annot)
    (depth : Nat) :
    C.Seeks search.reg element (C.passed annot) (offer target proc element depth annot)
      (Search.offer target proc' element depth annot) := by
  unfold Search.offer
  split
  · rename_i offered
    refine Walk.onState_coupled search.reg (h.process element annot depth bears ?_)
    simpa using offered
  · rename_i skipped
    refine .none (h.other annot fun same => skipped ?_)
    simp [same]

theorem ascend
    (hd : ∀ element depth, C.Seeks search.reg element True (descend element depth)
      (descend' element depth))
    {element : Element} {annot : Annot} (bears : search.Bears kind element annot)
    (passed : C.passed annot) (depth : Nat) :
    C.Seeks search.reg element True (ascend proc descend element depth annot)
      (Search.ascend proc' descend' element depth annot) := by
  intro w w' tied
  have ends := hd (.annotType annot.type) (depth + 1) w w' tied
  simp only [Search.ascend, bind_apply]
  generalize descend (.annotType annot.type) (depth + 1) w = left at ends
  generalize descend' (.annotType annot.type) (depth + 1) w' = right at ends
  cases ends with
  | error fits => exact .error fits
  | @ok o o' v v' fits =>
    cases o <;> cases o'
    · exact .ok fits
    · exact fits.state.elim
    · exact fits.state.elim
    · rename_i r r'
      have back := Walk.onState_coupled search.reg (h.postProcess element annot r r' bears passed)
      exact Coupled.bind back (fun a a' => Coupled.pure fun _ _ => id) v v' fits

theorem inAnnots
    (hd : ∀ element depth, C.Seeks search.reg element True (descend element depth)
      (descend' element depth))
    {element : Element} {annots : List Annot}
    (bears : ∀ annot ∈ search.candidates annots, search.Bears kind element annot) (depth : Nat) :
    C.Seeks search.reg element True
      ((search.caching keep).inAnnots target proc descend element depth annots)
      ((search.caching keep').inAnnots target proc' descend' element depth annots) := by
  refine Coupling.Seeks.orElse (.firstSome fun annot mem => h.offer (bears annot mem) depth)
    fun passed => ?_
  exact Coupling.Seeks.inTurn.firstSome fun annot mem => h.ascend hd (bears annot mem) (passed annot mem) depth

/-- Finding alike is kept by all the ways in which a search puts steps together. -/
theorem parallel :
    search.Parallel keep keep' fun element f g => C.Seeks search.reg element True f g where
  inTurn _ := Coupling.Seeks.inTurn
  asking harmless steps := .asking harmless steps
  askingInterface name steps :=
    (hasAnnotatedMethods_coupled C search keep keep' name).bind fun annotated annotated' => by
      rintro w w' ⟨rfl, tied⟩
      exact steps annotated w w' tied
  enter step := step.recover.visit
  move plain step := h.moves plain step

/-- Whole searches find alike. -/
theorem searchElement (fuel : Nat) (element : Element) (depth : Nat) :
    C.Seeks search.reg element True
      ((search.caching keep).searchElement kind target proc fuel element depth)
      ((search.caching keep').searchElement kind target proc' fuel element depth) :=
  (h.parallel keep keep').searchElement
    (fun _ _ hd _ depth _ bears => h.inAnnots keep keep' hd bears depth) fuel element depth

theorem searchFrom (element : Element) (depth : Nat) :
    C.Seeks search.reg element True
      ((search.caching keep).searchFrom kind target proc element depth)
      ((search.caching keep').searchFrom kind target proc' element depth) :=
  fun _ _ tied => h.searchElement keep keep' search.fuel element depth _ _
    ⟨rfl, tied.interfaces, tied.interfaces', tied.state⟩

end Couples
end Search

/-- Only configuration errors leave an element. -/
theorem Walk.enter_error {element : Element} {f : Action (Walk σ) (Option ρ)} {walk : Walk σ}
    {e : Error} (h : (Walk.visit element (Walk.recover element f) walk).1 = .error e) :
    e.isConfiguration = true := by
  unfold Walk.visit at h
  split at h
  · cases h
  · simp only [Walk.recover] at h
    split at h
    · cases h
    · split at h
      · rename_i config
        cases h
        exact config
      · cases h

/-- Only configuration errors end a search. -/
theorem Search.searchFrom_error {search : Search} {kind : SearchKind} {target : String}
    {proc : Processor σ ρ} {element : Element} {depth : Nat} {walk : Walk σ} {e : Error}
    (h : (search.searchFrom kind target proc element depth walk).1 = .error e) :
    e.isConfiguration = true :=
  Walk.enter_error h

end Annotations
