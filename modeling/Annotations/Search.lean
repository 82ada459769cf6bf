import Annotations.Event
import Annotations.Registry
import Annotations.Settings
import Annotations.Synthesizable

/-!
The search for annotations of a type from an element on. A get search looks at the annotations that
are present on the element, inherited ones included, and at their meta-annotations; a find search
also follows bridges, interfaces and superclasses. A processor sees the candidates, no element is
expanded twice, and an element that cannot be introspected contributes nothing.
-/
namespace Annotations

inductive SearchKind where
  | get
  | find
deriving DecidableEq, Repr

/-- What is done with candidates, over a state of its own. `process` may end the search with a
result; `postProcess` sees a result on its way back to the element the search began at. -/
structure Processor (σ ρ : Type) where
  process : Element → Annot → Nat → Action σ (Option ρ)
  postProcess : Element → Annot → ρ → Action σ ρ := fun _ _ result => return result

/-- What a search carries along: the elements met, which interfaces are known to have annotated
methods, the events so far, latest first, and the processor's state. -/
structure Walk (σ : Type) where
  visited : List Element := []
  interfaces : Entries Bool := []
  events : List Event := []
  state : σ

namespace Walk

variable {σ ρ α : Type}

def record (walk : Walk σ) (event : Event) : Walk σ := { walk with events := event :: walk.events }

/-- Runs the processor's part of a step. -/
def onState (action : Action σ α) : Action (Walk σ) α := fun walk =>
  let (outcome, state) := action walk.state
  (outcome, { walk with state })

/-- The first result that a step yields on some item. -/
def firstSome (step : α → Action (Walk σ) (Option ρ)) : List α → Action (Walk σ) (Option ρ)
  | [] => return none
  | item :: rest => do
    match ← step item with
    | some result => return some result
    | none => firstSome step rest

/-- Runs a step and, where it finds nothing, a second one. -/
def orElse (first second : Action (Walk σ) (Option ρ)) : Action (Walk σ) (Option ρ) := do
  match ← first with
  | some result => return some result
  | none => second

/-- Lets configuration errors pass and turns any other failure into no result. -/
def recover (element : Element) (action : Action (Walk σ) (Option ρ)) : Action (Walk σ) (Option ρ) :=
  fun walk =>
    match action walk with
    | (.ok result, walk) => (.ok result, walk)
    | (.error error, walk) =>
      if error.isConfiguration then (.error error, walk)
      else (.ok none, walk.record (.failure element.kind))

/-- Marks an element as met; no result if it was met before. -/
def visit (element : Element) (action : Action (Walk σ) (Option ρ)) : Action (Walk σ) (Option ρ) :=
  fun walk =>
    if walk.visited.contains element then (.ok none, walk)
    else action { walk with visited := element :: walk.visited }

theorem visit_of_mem {element : Element} {action : Action (Walk σ) (Option ρ)} {walk : Walk σ}
    (met : element ∈ walk.visited) : visit element action walk = (.ok none, walk) :=
  if_pos (List.contains_iff_mem.2 met)

theorem visit_of_not_mem {element : Element} {action : Action (Walk σ) (Option ρ)} {walk : Walk σ}
    (fresh : element ∉ walk.visited) :
    visit element action walk = action { walk with visited := element :: walk.visited } :=
  if_neg (mt List.contains_iff_mem.1 fresh)

end Walk

/-- Where a search takes place. -/
structure Search where
  reg : Registry
  settings : Settings

namespace Search

variable {σ ρ : Type}

/-- How a search goes on at another element and depth. -/
abbrev Descend (σ ρ : Type) := Element → Nat → Action (Walk σ) (Option ρ)

def checkDepth (search : Search) (element : Element) (depth : Nat) : Except Error Unit :=
  if depth > search.settings.maxMetaDepth then
    .error (.metaDepthExceeded element.display search.settings.maxMetaDepth)
  else .ok ()

/-- The annotations a search looks at. -/
def candidates (search : Search) (annots : List Annot) : List Annot :=
  annots.filter fun annot => !search.settings.isBuiltin annot.type

/-- Hands an annotation to the processor: on meta-annotation types always, elsewhere if it is of the
type looked for. -/
def offer (target : String) (proc : Processor σ ρ) (element : Element) (depth : Nat) (annot : Annot) :
    Action (Walk σ) (Option ρ) :=
  if depth > 0 || annot.type == target then Walk.onState (proc.process element annot depth)
  else return none

/-- Searches the type of an annotation and lets the processor see what was found there. -/
def ascend (proc : Processor σ ρ) (descend : Descend σ ρ) (element : Element) (depth : Nat)
    (annot : Annot) : Action (Walk σ) (Option ρ) := do
  match ← descend (.annotType annot.type) (depth + 1) with
  | none => return none
  | some result => return some (← Walk.onState (proc.postProcess element annot result))

/-- Searches annotations of an element: all of them first, their types after that. -/
def inAnnots (search : Search) (target : String) (proc : Processor σ ρ) (descend : Descend σ ρ)
    (element : Element) (depth : Nat) (annots : List Annot) : Action (Walk σ) (Option ρ) :=
  let candidates := search.candidates annots
  Walk.orElse (Walk.firstSome (offer target proc element depth) candidates)
    (Walk.firstSome (ascend proc descend element depth) candidates)

/-- Whether an interface has annotated methods, from the search's own answers where they are kept. -/
def hasAnnotatedMethods (search : Search) (name : String) : Action (Walk σ) Bool := do
  if !search.settings.cacheEnabled then
    return ← search.reg.hasAnnotatedMethods name
  match (← get).interfaces.get? name with
  | some known =>
    modify (·.record (.lookup .annotatedInterfaces true))
    return known
  | none =>
    modify (·.record (.lookup .annotatedInterfaces false))
    let annotated ← search.reg.hasAnnotatedMethods name
    modify fun walk => { walk with interfaces := walk.interfaces.put name annotated }
    return annotated

/-- Searches the methods of a signature on interfaces that have annotated methods at all. -/
def onInterfaces (search : Search) (descend : Descend σ ρ) (ref : MethodRef) (depth : Nat)
    (interfaces : List String) : Action (Walk σ) (Option ρ) :=
  Walk.firstSome (fun name => do
    if !(← search.hasAnnotatedMethods name) then return none
    match ← search.reg.findInterfaceMethod name ref.name ref.parameters with
    | none => return none
    | some equivalent => descend (.method equivalent) depth) interfaces

/-- Searches the method that a method overrides on a superclass, then the interfaces there. -/
def onSuperclass (search : Search) (descend : Descend σ ρ) (ref : MethodRef) (depth : Nat)
    (name : String) : Action (Walk σ) (Option ρ) := do
  let decl ← search.reg.classDecl name
  Walk.orElse
    (if (decl.method? ref.name ref.parameters).isSome then do
      let overridden ← search.reg.resolveBridge (ref.onClass name)
      descend (.method overridden) depth
    else return none)
    (search.onInterfaces descend ref depth decl.interfaces)

/-- What a find search adds for a method: the bridged method, the interfaces, the superclasses. -/
def onMethod (search : Search) (descend : Descend σ ρ) (ref : MethodRef) (depth : Nat) :
    Action (Walk σ) (Option ρ) := do
  let bridged ← search.reg.resolveBridge ref
  Walk.orElse (descend (.method bridged) depth) do
    let decl ← search.reg.classDecl ref.owner
    Walk.orElse (search.onInterfaces descend ref depth decl.interfaces)
      (Walk.firstSome (search.onSuperclass descend ref depth) (search.reg.superclasses ref.owner))

/-- What a find search adds for a class: its interfaces, then its superclass. -/
def onClass (search : Search) (descend : Descend σ ρ) (name : String) (depth : Nat) :
    Action (Walk σ) (Option ρ) := do
  let decl ← search.reg.classDecl name
  Walk.firstSome (fun above => descend (.classLike above) depth)
    (decl.interfaces ++ decl.superclass.toList)

/-- What comes after the declared annotations of an element. -/
def beyond (search : Search) (kind : SearchKind) (target : String) (proc : Processor σ ρ)
    (descend : Descend σ ρ) (element : Element) (depth : Nat) : Action (Walk σ) (Option ρ) :=
  match kind, element with
  | .get, .classLike name => do
    search.inAnnots target proc descend element depth (← search.reg.inheritedAnnots name)
  | .find, .classLike name => search.onClass descend name depth
  | .find, .method ref => search.onMethod descend ref depth
  | _, _ => return none

/-- Searches one element. -/
def expand (search : Search) (kind : SearchKind) (target : String) (proc : Processor σ ρ)
    (descend : Descend σ ρ) (element : Element) (depth : Nat) : Action (Walk σ) (Option ρ) := do
  search.checkDepth element depth
  let declared ← search.reg.declaredAnnots element
  Walk.orElse (search.inAnnots target proc descend element depth declared)
    (search.beyond kind target proc descend element depth)

/-- Searches an element not met before, at most `fuel` elements inside one another. -/
def searchElement (search : Search) (kind : SearchKind) (target : String) (proc : Processor σ ρ) :
    Nat → Descend σ ρ
  | 0, _, _ => return none
  | fuel + 1, element, depth =>
    Walk.visit element
      (Walk.recover element
        (search.expand kind target proc (search.searchElement kind target proc fuel) element depth))

/-- More elements than can be expanded inside one another: each of them is registered and met for
the first time, but for the inmost. -/
def fuel (search : Search) : Nat :=
  search.reg.types.length +
    search.reg.classes.foldr (fun entry total => entry.2.methods.length + 1 + total) 0 + 1

/-- Searches from an element at a depth, with no element met yet. -/
def searchFrom (search : Search) (kind : SearchKind) (target : String) (proc : Processor σ ρ)
    (element : Element) (depth : Nat) : Action (Walk σ) (Option ρ) := fun walk =>
  search.searchElement kind target proc search.fuel element depth { walk with visited := [] }

end Search
end Annotations
