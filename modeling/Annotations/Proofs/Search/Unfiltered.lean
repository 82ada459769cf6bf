import Annotations.Proofs.Graph.Barren
import Annotations.Proofs.Search.Coupling
import Annotations.Proofs.Search.Filled

/-!
Searches that look at interfaces without annotated methods and searches that pass them over. A search
that comes to a method of such an interface meets methods of such interfaces only, hands nothing to
its processor and finds nothing. So beside one another the two searches have met the same elements but
for those methods, and it makes no difference which of those were met.
-/
namespace Annotations

open Annotations.Action

variable {σ ρ : Type}

namespace Search

/-- How a search goes on from a method at some interfaces. -/
abbrev Across (σ ρ : Type) :=
  Descend σ ρ → MethodRef → Nat → List String → Action (Walk σ) (Option ρ)

/-- Searches the method of a signature on an interface. -/
def onInterface (search : Search) (descend : Descend σ ρ) (ref : MethodRef) (depth : Nat)
    (name : String) : Action (Walk σ) (Option ρ) := do
  match ← search.reg.findInterfaceMethod name ref.name ref.parameters with
  | none => return none
  | some equivalent => descend (.method equivalent) depth

/-- Searches the methods of a signature on interfaces, with annotated methods or not. -/
def onEveryInterface (search : Search) : Across σ ρ := fun descend ref depth interfaces =>
  Walk.firstSome (search.onInterface descend ref depth) interfaces

/-! The search with the way in which it goes on at interfaces left open. -/

def onSuperclassBy (search : Search) (across : Across σ ρ) (descend : Descend σ ρ) (ref : MethodRef)
    (depth : Nat) (name : String) : Action (Walk σ) (Option ρ) := do
  let decl ← search.reg.classDecl name
  Walk.orElse
    (if (decl.method? ref.name ref.parameters).isSome then do
      let overridden ← search.reg.resolveBridge (ref.onClass name)
      descend (.method overridden) depth
    else return none)
    (across descend ref depth decl.interfaces)

def onMethodBy (search : Search) (across : Across σ ρ) (descend : Descend σ ρ) (ref : MethodRef)
    (depth : Nat) : Action (Walk σ) (Option ρ) := do
  let bridged ← search.reg.resolveBridge ref
  Walk.orElse (descend (.method bridged) depth) do
    let decl ← search.reg.classDecl ref.owner
    Walk.orElse (across descend ref depth decl.interfaces)
      (Walk.firstSome (search.onSuperclassBy across descend ref depth)
        (search.reg.superclasses ref.owner))

def beyondBy (search : Search) (across : Across σ ρ) (kind : SearchKind) (target : String)
    (proc : Processor σ ρ) (descend : Descend σ ρ) (element : Element) (depth : Nat) :
    Action (Walk σ) (Option ρ) :=
  match kind, element with
  | .find, .method ref => search.onMethodBy across descend ref depth
  | kind, element => search.beyond kind target proc descend element depth

def expandBy (search : Search) (across : Across σ ρ) (kind : SearchKind) (target : String)
    (proc : Processor σ ρ) (descend : Descend σ ρ) (element : Element) (depth : Nat) :
    Action (Walk σ) (Option ρ) := do
  search.checkDepth element depth
  let declared ← search.reg.declaredAnnots element
  Walk.orElse (search.inAnnots target proc descend element depth declared)
    (search.beyondBy across kind target proc descend element depth)

def searchElementBy (search : Search) (across : Across σ ρ) (kind : SearchKind) (target : String)
    (proc : Processor σ ρ) : Nat → Descend σ ρ
  | 0, _, _ => return none
  | fuel + 1, element, depth =>
    Walk.visit element
      (Walk.recover element
        (search.expandBy across kind target proc
          (search.searchElementBy across kind target proc fuel) element depth))

/-- What a step comes to: its outcome and the state in which it leaves the processor. -/
def comesTo {α : Type} (f : Action (Walk σ) α) (walk : Walk σ) : Except Error α × σ :=
  ((f walk).1, (f walk).2.state)

/-- A search that passes no interface over, with some fuel beside what the other one has. -/
def unfilteredFrom (search : Search) (extra : Nat) (kind : SearchKind) (target : String)
    (proc : Processor σ ρ) (element : Element) (depth : Nat) : Action (Walk σ) (Option ρ) :=
  fun walk => search.searchElementBy search.onEveryInterface kind target proc (search.fuel + extra)
    element depth { walk with visited := [] }

variable {search : Search} {kind : SearchKind} {target : String} {proc : Processor σ ρ}

/-- The search itself goes on at interfaces with annotated methods. -/
theorem searchElementBy_filtered (fuel : Nat) :
    search.searchElementBy search.onInterfaces kind target proc fuel =
      search.searchElement kind target proc fuel := by
  induction fuel with
  | zero => rfl
  | succ fuel ih =>
    funext element depth
    have beyond (descend : Descend σ ρ) :
        search.beyondBy search.onInterfaces kind target proc descend element depth =
          search.beyond kind target proc descend element depth := by
      cases kind <;> cases element <;> rfl
    simp only [searchElementBy, searchElement, ih, expandBy, expand, beyond]

/-- More fuel is put in where the fuel would run out. -/
theorem searchElement_add (fuel extra : Nat) :
    search.searchElement kind target proc (fuel + extra) =
      search.filled (search.searchElement kind target proc extra) kind target proc fuel := by
  induction fuel with
  | zero => rw [Nat.zero_add, filled]
  | succ fuel ih =>
    funext element depth
    rw [Nat.succ_add, searchElement, filled, ih]

/-- More fuel changes nothing. -/
theorem searchElement_extra (extra : Nat) (element : Element) (depth : Nat) (walk : Walk σ) :
    search.searchElement kind target proc (search.fuel + extra) element depth
        { walk with visited := [] } =
      search.searchFrom kind target proc element depth walk := by
  rw [searchElement_add]
  exact (filled_sameFrom _ search.fuel List.nodup_nil (by simp) (by simp) element depth
    { walk with visited := [] } (List.nil_subset _)).1

end Search

/-- A method of an interface without annotated methods. -/
def Registry.OnBarren (reg : Registry) : Element → Prop
  | .method ref => reg.Barren ref.owner
  | _ => False

/-- Two walks that have met the same elements but for methods of interfaces without annotated ones. -/
structure Walk.Past (reg : Registry) (walk walk' : Walk σ) : Prop where
  visited : ∀ element, ¬ reg.OnBarren element →
    (element ∈ walk.visited ↔ element ∈ walk'.visited)
  interfaces : reg.InterfacesSound walk.interfaces
  interfaces' : reg.InterfacesSound walk'.interfaces
  state : walk.state = walk'.state

namespace Walk.Past

variable {reg : Registry} {walk walk' walk'' : Walk σ}

theorem refl (sound : reg.InterfacesSound walk.interfaces) : Walk.Past reg walk walk :=
  ⟨fun _ _ => Iff.rfl, sound, sound, rfl⟩

theorem symm (h : Walk.Past reg walk walk') : Walk.Past reg walk' walk :=
  ⟨fun element plain => (h.visited element plain).symm, h.interfaces', h.interfaces, h.state.symm⟩

theorem trans (h : Walk.Past reg walk walk') (h' : Walk.Past reg walk' walk'') :
    Walk.Past reg walk walk'' :=
  ⟨fun element plain => (h.visited element plain).trans (h'.visited element plain), h.interfaces,
    h'.interfaces', h.state.trans h'.state⟩

/-- What is met on both sides makes no difference. -/
theorem enter (h : Walk.Past reg walk walk') (element : Element) :
    Walk.Past reg { walk with visited := element :: walk.visited }
      { walk' with visited := element :: walk'.visited } := by
  refine ⟨fun other plain => ?_, h.interfaces, h.interfaces', h.state⟩
  rw [List.mem_cons, List.mem_cons, h.visited other plain]

end Walk.Past

/-- A step in vain: it finds nothing, or where it may fail does so harmlessly, and meets only methods
of interfaces without annotated ones. -/
def Idles (reg : Registry) (fails : Prop) (f : Action (Walk σ) (Option ρ)) : Prop :=
  ∀ walk, reg.InterfacesSound walk.interfaces → Walk.Past reg walk (f walk).2 ∧
    ((f walk).1 = .ok none ∨ fails ∧ ∃ e, (f walk).1 = .error e ∧ e.isConfiguration = false)

namespace Idles

variable {reg : Registry} {fails : Prop} {f g : Action (Walk σ) (Option ρ)}

theorem none : Idles reg fails (pure .none : Action (Walk σ) (Option ρ)) :=
  fun _ sound => ⟨.refl sound, .inl rfl⟩

theorem mayFail (h : Idles reg False f) : Idles reg fails f :=
  fun walk sound => (h walk sound).imp id fun ends => .inl (ends.resolve_right fun no => no.1)

theorem asking {α : Type} {outcome : Except Error α} (harmless : Registry.Harmless outcome)
    {k : α → Action (Walk σ) (Option ρ)} (h : ∀ a, outcome = .ok a → Idles reg True (k a)) :
    Idles reg True (liftM outcome >>= k) := by
  intro walk sound
  rw [bind_apply, lift_apply]
  cases outcome with
  | ok a => exact h a rfl walk sound
  | error e => exact ⟨.refl sound, .inr ⟨trivial, e, rfl, harmless e rfl⟩⟩

theorem orElse (h : Idles reg fails f) (h' : Idles reg fails g) :
    Idles reg fails (Walk.orElse f g) := by
  intro walk sound
  obtain ⟨past, ends⟩ := h walk sound
  simp only [Walk.orElse, bind_apply]
  rcases ends with none | ⟨may, e, failed, harmless⟩
  · obtain ⟨past', ends'⟩ := h' _ past.interfaces'
    rw [none]
    exact ⟨past.trans past', ends'⟩
  · rw [failed]
    exact ⟨past, .inr ⟨may, e, rfl, harmless⟩⟩

theorem inTurn : Walk.InTurn fun (f _ : Action (Walk σ) (Option ρ)) => Idles reg fails f :=
  ⟨none, orElse⟩

theorem enter {element : Element} (barren : reg.OnBarren element) (h : Idles reg True f) :
    Idles reg False (Walk.visit element (Walk.recover element f)) := by
  intro walk sound
  by_cases seen : element ∈ walk.visited
  · rw [Walk.visit_of_mem seen]
    exact ⟨.refl sound, .inl rfl⟩
  rw [Walk.visit_of_not_mem seen]
  have entered : Walk.Past reg walk { walk with visited := element :: walk.visited } := by
    refine ⟨fun other plain => ?_, sound, sound, rfl⟩
    have apart : other ≠ element := fun same => plain (same ▸ barren)
    simp [apart]
  obtain ⟨past, ends⟩ := h { walk with visited := element :: walk.visited } sound
  simp only [Walk.recover]
  generalize f _ = left at past ends
  obtain ⟨outcome, after⟩ := left
  rcases ends with rfl | ⟨_, e, rfl, harmless⟩
  · exact ⟨entered.trans past, .inl rfl⟩
  · dsimp only
    rw [harmless, if_neg Bool.false_ne_true]
    exact ⟨entered.trans ⟨past.visited, past.interfaces, past.interfaces', past.state⟩, .inl rfl⟩

end Idles

namespace Search

variable {search : Search} {kind : SearchKind} {target : String} {proc : Processor σ ρ}
  {across : Across σ ρ} {ref : MethodRef}

/-- From a method on a search goes on in vain at interfaces without annotated methods, if it does at
their methods. -/
def Calm (search : Search) (across : Across σ ρ) : Prop :=
  ∀ descend, (∀ ref depth, search.reg.Barren ref.owner →
      Idles search.reg False (descend (.method ref) depth)) →
    ∀ ref depth interfaces, (∀ interface ∈ interfaces, search.reg.Barren interface) →
      Idles search.reg True (across descend ref depth interfaces)

theorem onInterfaces_calm (search : Search) :
    search.Calm (search.onInterfaces : Across σ ρ) := by
  intro descend _ ref depth interfaces barren
  refine Idles.inTurn.firstSome_self fun name mem walk sound => ?_
  obtain ⟨_, _, sound', answer⟩ := search.hasAnnotatedMethods_learns name walk sound
  rw [bind_apply, answer, (barren name mem).bare]
  exact ⟨⟨fun _ _ => Iff.rfl, sound, sound', rfl⟩, .inl rfl⟩

section

variable (known : search.reg.HierarchyKnown)

include known

/-- At an interface without annotated methods a search goes on in vain, if it does at its methods. -/
theorem onInterface_idles {descend : Descend σ ρ}
    (idles : ∀ ref depth, search.reg.Barren ref.owner →
      Idles search.reg False (descend (.method ref) depth))
    {name : String} (barren : search.reg.Barren name) (ref : MethodRef) (depth : Nat) :
    Idles search.reg False (search.onInterface descend ref depth name) := by
  have answer := (known.interface (known.named barren.named)).2 ref.name ref.parameters
  unfold onInterface
  cases found : search.reg.findInterfaceMethod name ref.name ref.parameters with
  | error e => cases found.symm.trans answer
  | ok equivalent =>
    cases equivalent with
    | none => exact .none
    | some equivalent => exact idles equivalent depth (known.barren_found barren found)

theorem onEveryInterface_calm : search.Calm (search.onEveryInterface : Across σ ρ) :=
  fun _ idles ref depth _ barren => Idles.inTurn.firstSome_self fun name mem =>
    (onInterface_idles known idles (barren name mem) ref depth).mayFail

variable (rootless : search.reg.InterfacesRootless)

include rootless

/-- From a method of an interface without annotated methods a search goes on in vain. -/
theorem onMethodBy_idles (calm : search.Calm across) {descend : Descend σ ρ}
    (idles : ∀ ref depth, search.reg.Barren ref.owner →
      Idles search.reg False (descend (.method ref) depth))
    (barren : search.reg.Barren ref.owner) (depth : Nat) :
    Idles search.reg True (search.onMethodBy across descend ref depth) := by
  refine .asking (search.reg.resolveBridge_harmless ref) fun bridged bridge => ?_
  have beside : search.reg.Barren bridged.owner :=
    Registry.resolveBridge_owner bridge ▸ barren
  refine (idles bridged depth beside).mayFail.orElse ?_
  refine .asking (search.reg.classDecl_harmless ref.owner) fun decl own => ?_
  rw [rootless.superclasses barren.named]
  refine (calm descend idles ref depth decl.interfaces fun interface mem => ?_).orElse .none
  exact known.barren_above barren (.step (Registry.mem_interfaceGraph_next.2 ⟨decl, own, mem⟩))

theorem expandBy_idles (calm : search.Calm across) {descend : Descend σ ρ}
    (idles : ∀ ref depth, search.reg.Barren ref.owner →
      Idles search.reg False (descend (.method ref) depth))
    (barren : search.reg.Barren ref.owner) (depth : Nat) :
    Idles search.reg True (search.expandBy across kind target proc descend (.method ref) depth) := by
  refine .asking (search.checkDepth_harmless _ _) fun _ _ => ?_
  refine .asking (search.reg.declaredAnnots_harmless _) fun annots declared => ?_
  obtain ⟨decl, method, same⟩ := Outcome.bind_ok declared
  cases same
  rw [known.barren_annots barren method]
  refine Idles.orElse (Idles.none.orElse .none) ?_
  cases kind with
  | get => exact .none
  | find => exact onMethodBy_idles known rootless calm idles barren depth

/-- From a method of an interface without annotated methods a search is made in vain. -/
theorem searchElementBy_idles (calm : search.Calm across) (fuel : Nat)
    (barren : search.reg.Barren ref.owner) (depth : Nat) :
    Idles search.reg False
      (search.searchElementBy across kind target proc fuel (.method ref) depth) := by
  induction fuel generalizing ref depth with
  | zero => exact .none
  | succ fuel ih =>
    exact .enter barren (expandBy_idles known rootless calm (fun _ _ barren => ih barren _) barren
      depth)

end

end Search

/-- From two such walks two steps have one outcome and lead to such walks. -/
def Alongside (reg : Registry) (f g : Action (Walk σ) (Option ρ)) : Prop :=
  Alike (Walk.Past reg) f g

namespace Alongside

variable {reg : Registry} {f g f' g' : Action (Walk σ) (Option ρ)} {element : Element} {α : Type}

theorem none : Alongside reg (pure .none : Action (Walk σ) (Option ρ)) (pure .none) := Alike.pure _

theorem asking {outcome : Except Error α} {k l : α → Action (Walk σ) (Option ρ)}
    (h : ∀ a, outcome = .ok a → Alongside reg (k a) (l a)) :
    Alongside reg (liftM outcome >>= k) (liftM outcome >>= l) := by
  cases outcome with
  | ok a => exact h a rfl
  | error e => exact Alike.throw e

theorem orElse (h : Alongside reg f g) (h' : Alongside reg f' g') :
    Alongside reg (Walk.orElse f f') (Walk.orElse g g') := by
  refine Alike.bind h fun found => ?_
  cases found with
  | none => exact h'
  | some result => exact Alike.pure _

theorem inTurn : Walk.InTurn (Alongside (σ := σ) (ρ := ρ) reg) := ⟨none, orElse⟩

/-- What the processor does is the same on both sides. -/
theorem onState (step : Action σ α) :
    Alike (Walk.Past reg) (Walk.onState step) (Walk.onState step) := by
  refine .of_outcome fun walk walk' past => ?_
  simp only [Walk.onState, past.state]
  exact ⟨rfl, past.visited, past.interfaces, past.interfaces', rfl⟩

theorem enter (plain : ¬ reg.OnBarren element) (h : Alongside reg f g) :
    Alongside reg (Walk.visit element (Walk.recover element f))
      (Walk.visit element (Walk.recover element g)) := by
  intro walk walk' past
  have same := past.visited element plain
  by_cases seen : element ∈ walk.visited
  · rw [Walk.visit_of_mem seen, Walk.visit_of_mem (same.1 seen)]
    exact .ok ⟨rfl, past⟩
  rw [Walk.visit_of_not_mem seen, Walk.visit_of_not_mem (mt same.2 seen)]
  have ends := h _ _ (past.enter element)
  simp only [Walk.recover]
  generalize f _ = left at ends
  generalize g _ = right at ends
  cases ends with
  | ok fits => exact .ok fits
  | @error e after after' past =>
    cases abort : e.isConfiguration with
    | true =>
      simp only [abort, if_true]
      exact .error past
    | false =>
      simp only [abort, Bool.false_eq_true, if_false]
      exact .ok ⟨rfl, past.visited, past.interfaces, past.interfaces', past.state⟩

/-- Steps in vain are alongside each other. -/
theorem of_idles (h : Idles reg False f) (h' : Idles reg False g) : Alongside reg f g := by
  refine .of_outcome fun walk walk' past => ?_
  obtain ⟨left, ends⟩ := h walk past.interfaces
  obtain ⟨right, ends'⟩ := h' walk' past.interfaces'
  rw [ends.resolve_right fun no => no.1, ends'.resolve_right fun no => no.1]
  exact ⟨rfl, (left.symm.trans past).trans right⟩

end Alongside

namespace Search

variable {search : Search} {kind : SearchKind} {target : String} {proc : Processor σ ρ}
  {descend descend' : Descend σ ρ} {ref : MethodRef} {depth : Nat}

section

variable (hd : ∀ element depth,
  Alongside search.reg (descend element depth) (descend' element depth))

include hd

theorem inAnnots_alongside (element : Element) (depth : Nat) (annots : List Annot) :
    Alongside search.reg (search.inAnnots target proc descend element depth annots)
      (search.inAnnots target proc descend' element depth annots) := by
  refine Alongside.inTurn.inAnnots rfl (fun annot _ => ?_) fun annot _ => ?_
  · unfold offer
    split
    · exact .onState _
    · exact .none
  · refine Alike.bind (hd (.annotType annot.type) (depth + 1)) fun found => ?_
    cases found with
    | none => exact Alike.pure _
    | some result => exact Alike.bind (Alongside.onState _) fun _ => Alike.pure _

theorem onInterface_alongside (name : String) :
    Alongside search.reg (search.onInterface descend ref depth name)
      (search.onInterface descend' ref depth name) := by
  refine .asking fun found _ => ?_
  cases found with
  | none => exact .none
  | some equivalent => exact hd (.method equivalent) depth

variable (known : search.reg.HierarchyKnown)
  (idles : ∀ ref depth, search.reg.Barren ref.owner →
    Idles search.reg False (descend' (.method ref) depth))

include known idles

/-- Going on at interfaces with annotated methods and at all of them comes to the same. -/
theorem onInterfaces_alongside {interfaces : List String}
    (named : ∀ interface ∈ interfaces, search.reg.IsNamed interface) :
    Alongside search.reg (search.onInterfaces descend ref depth interfaces)
      (search.onEveryInterface descend' ref depth interfaces) := by
  refine Alongside.inTurn.firstSome fun name mem walk walk' past => ?_
  obtain ⟨interfaces', events, sound, answer⟩ :=
    search.hasAnnotatedMethods_learns name walk past.interfaces
  have past' : Walk.Past search.reg { walk with interfaces := interfaces', events } walk' :=
    ⟨past.visited, sound, past.interfaces', past.state⟩
  rw [bind_apply, answer]
  cases annotated : search.reg.hasAnnotatedMethods name with
  | error e => cases annotated.symm.trans (known.interface (known.named (named name mem))).1
  | ok has =>
    cases has with
    | true => exact onInterface_alongside hd name _ _ past'
    | false =>
      have idle := onInterface_idles known idles ⟨named name mem, annotated⟩ ref depth
      exact Alongside.of_idles .none idle _ _ past'

theorem onSuperclassBy_alongside (name : String) :
    Alongside search.reg
      (search.onSuperclassBy search.onInterfaces descend ref depth name)
      (search.onSuperclassBy search.onEveryInterface descend' ref depth name) := by
  refine .asking fun decl own => Alongside.orElse ?_ ?_
  · split
    · exact .asking fun overridden _ => hd (.method overridden) depth
    · exact .none
  · exact onInterfaces_alongside hd known idles fun interface mem =>
      ⟨name, Registry.mem_interfaceGraph_next.2 ⟨decl, own, mem⟩⟩

theorem onMethodBy_alongside :
    Alongside search.reg (search.onMethodBy search.onInterfaces descend ref depth)
      (search.onMethodBy search.onEveryInterface descend' ref depth) := by
  refine .asking fun bridged _ => (hd (.method bridged) depth).orElse ?_
  refine .asking fun decl own => Alongside.orElse ?_ ?_
  · exact onInterfaces_alongside hd known idles fun interface mem =>
      ⟨ref.owner, Registry.mem_interfaceGraph_next.2 ⟨decl, own, mem⟩⟩
  · exact Alongside.inTurn.firstSome fun name _ => onSuperclassBy_alongside hd known idles name

theorem beyondBy_alongside (element : Element) (depth : Nat) :
    Alongside search.reg
      (search.beyondBy search.onInterfaces kind target proc descend element depth)
      (search.beyondBy search.onEveryInterface kind target proc descend' element depth) := by
  cases kind with
  | get =>
    cases element with
    | classLike name => exact .asking fun annots _ => inAnnots_alongside hd _ depth annots
    | method ref => exact .none
    | annotType name => exact .none
  | find =>
    cases element with
    | classLike name => exact .asking fun decl _ => Alongside.inTurn.firstSome fun above _ => hd _ depth
    | method ref => exact onMethodBy_alongside hd known idles
    | annotType name => exact .none

theorem expandBy_alongside (element : Element) (depth : Nat) :
    Alongside search.reg
      (search.expandBy search.onInterfaces kind target proc descend element depth)
      (search.expandBy search.onEveryInterface kind target proc descend' element depth) := by
  refine .asking fun _ _ => .asking fun annots _ => Alongside.orElse ?_ ?_
  · exact inAnnots_alongside hd element depth annots
  · exact beyondBy_alongside hd known idles element depth

end

variable (known : search.reg.HierarchyKnown) (rootless : search.reg.InterfacesRootless)

include known rootless

/-- The search that passes interfaces over and the one that does not, with the same fuel. -/
theorem searchElementBy_alongside (fuel : Nat) (element : Element) (depth : Nat) :
    Alongside search.reg
      (search.searchElementBy search.onInterfaces kind target proc fuel element depth)
      (search.searchElementBy search.onEveryInterface kind target proc fuel element depth) := by
  induction fuel generalizing element depth with
  | zero => exact .none
  | succ fuel ih =>
    by_cases barren : search.reg.OnBarren element
    · cases element with
      | method ref =>
        exact .of_idles
          (searchElementBy_idles known rootless (onInterfaces_calm search) _ barren depth)
          (searchElementBy_idles known rootless (onEveryInterface_calm known) _ barren depth)
      | classLike name => exact barren.elim
      | annotType name => exact barren.elim
    · refine .enter barren (expandBy_alongside ih known (fun ref depth barren => ?_) element depth)
      exact searchElementBy_idles known rootless (onEveryInterface_calm known) fuel barren depth

/-- A search that passes no interface over comes to what the search comes to. -/
theorem unfilteredFrom_comesTo (extra : Nat) (element : Element) (depth : Nat) (walk : Walk σ)
    (sound : search.reg.InterfacesSound walk.interfaces) :
    comesTo (search.unfilteredFrom extra kind target proc element depth) walk =
      comesTo (search.searchFrom kind target proc element depth) walk := by
  have alongside : Alongside search.reg
      (search.searchElementBy search.onInterfaces kind target proc (search.fuel + extra) element depth)
      (search.searchElementBy search.onEveryInterface kind target proc (search.fuel + extra) element
        depth) :=
    searchElementBy_alongside known rootless (search.fuel + extra) element depth
  have start : Walk.Past search.reg { walk with visited := [] } { walk with visited := [] } :=
    .refl sound
  obtain ⟨outcome, past⟩ := alongside.outcome start
  rw [searchElementBy_filtered, searchElement_extra] at outcome past
  exact Prod.ext outcome.symm past.state.symm

end Search
end Annotations
